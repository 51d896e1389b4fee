import XcmTasks.Proofs.Adapter.Fees
import XcmTasks.Proofs.Scale.Basic
import XcmTasks.Proofs.Weight

/-!
Fees at the rates of a registry. While the entries of a chain's storage stay as they are, a weight
has one price in a foreign asset: its computation times the rate, counted in seconds and rounded
down. The product is taken over 128 bits, and there is no price where it is too large, even if the
price itself would not be. So more computation at a higher rate never costs less, and two weights
together cost as much as each of them, or one unit more.
-/

namespace XcmTasks

open Dialogue

namespace Adapter

/-! ### Rounding -/

section
variable {w w' x y z : Weight} {rate rate' fee fee' : UInt128}

/-- The computation of a weight times a rate, before it is counted in seconds. -/
def scaled (w : Weight) (rate : UInt128) : Nat := w.refTime.toNat * rate.toNat

theorem scaled_mono (hw : w.refTime ≤ w'.refTime) (hr : rate ≤ rate') :
    scaled w rate ≤ scaled w' rate' := by
  have computation : w.refTime.toNat ≤ w'.refTime.toNat := UInt64.le_iff_toNat_le.mp hw
  have price : rate.toNat ≤ rate'.toNat := BitVec.le_def.mp hr
  exact Nat.mul_le_mul computation price

theorem scaled_add (h : x.checkedAdd y = some z) (rate : UInt128) :
    scaled z rate = scaled x rate + scaled y rate := by
  have total := (Weight.checkedAdd_eq_some.mp h).1
  unfold scaled
  rw [total, Nat.add_mul]

theorem feeAtRate?_eq (w : Weight) (rate : UInt128) :
    feeAtRate? w rate = if scaled w rate < UInt128.size then
      some (BitVec.ofNat 128 (scaled w rate / refTimePerSecond)) else none := rfl

theorem feeAtRate?_eq_some :
    feeAtRate? w rate = some fee ↔
      scaled w rate < UInt128.size ∧ fee.toNat = scaled w rate / refTimePerSecond := by
  rw [feeAtRate?_eq]
  by_cases small : scaled w rate < UInt128.size
  · have told : (BitVec.ofNat 128 (scaled w rate / refTimePerSecond)).toNat =
        scaled w rate / refTimePerSecond :=
      toNat_bitVec_ofNat (Nat.lt_of_le_of_lt (Nat.div_le_self _ _) small)
    rw [if_pos small, Option.some_inj]
    constructor
    · rintro rfl
      exact ⟨small, told⟩
    · rintro ⟨-, same⟩
      apply BitVec.eq_of_toNat_eq
      rw [told, same]
  · simp [small]

/-- There is a fee as long as the product fits, however small the fee itself would be. -/
theorem exists_fee (w : Weight) (rate : UInt128) :
    (∃ fee, feeAtRate? w rate = some fee) ↔ scaled w rate < UInt128.size := by
  rw [feeAtRate?_eq]
  by_cases small : scaled w rate < UInt128.size <;> simp [small]

theorem feeAtRate?_bounds (h : feeAtRate? w rate = some fee) :
    fee.toNat * refTimePerSecond ≤ scaled w rate ∧
      scaled w rate < (fee.toNat + 1) * refTimePerSecond := by
  have second : 0 < refTimePerSecond := by decide
  have rounded := (feeAtRate?_eq_some.mp h).2
  rw [rounded]
  constructor
  · exact Nat.div_mul_le_self _ _
  · rw [Nat.mul_comm]
    exact Nat.lt_mul_div_succ _ second

theorem feeAtRate?_mono (hw : w.refTime ≤ w'.refTime) (hr : rate ≤ rate')
    (h : feeAtRate? w' rate' = some fee') :
    ∃ fee, feeAtRate? w rate = some fee ∧ fee ≤ fee' := by
  have less := scaled_mono hw hr
  obtain ⟨small', rounded'⟩ := feeAtRate?_eq_some.mp h
  obtain ⟨fee, hf⟩ := (exists_fee w rate).mpr (Nat.lt_of_le_of_lt less small')
  have rounded := (feeAtRate?_eq_some.mp hf).2
  refine ⟨fee, hf, BitVec.le_def.mpr ?_⟩
  rw [rounded, rounded']
  exact Nat.div_le_div_right less

/-- What is lost by rounding twice is less than two units, and so at most one. -/
theorem feeAtRate?_add {feeX feeY feeZ : UInt128} (h : x.checkedAdd y = some z)
    (hx : feeAtRate? x rate = some feeX) (hy : feeAtRate? y rate = some feeY)
    (hz : feeAtRate? z rate = some feeZ) :
    feeX.toNat + feeY.toNat ≤ feeZ.toNat ∧ feeZ.toNat ≤ feeX.toNat + feeY.toNat + 1 := by
  have total := scaled_add h rate
  have roundedX := (feeAtRate?_eq_some.mp hx).2
  have roundedY := (feeAtRate?_eq_some.mp hy).2
  have roundedZ := (feeAtRate?_eq_some.mp hz).2
  unfold refTimePerSecond at roundedX roundedY roundedZ
  omega

end

/-! ### Registries that stay as they are -/

/-- What the entries of a chain's storage hold. -/
abbrev Entries := StorageKey → Option Bytes

/-- If the exchange reads an entry, it is told what the entry holds. -/
def ReadFrom (entries : Entries) : Exchange Action Action.Answer → Prop
  | ⟨.send _ (.storage key), reply⟩ => reply = Except.ok (entries key)
  | _ => True

end Adapter

def ChainFamily.rateAmong? (entries : Adapter.Entries) (own : Location) (family : ChainFamily) :
    Option UInt128 := do
  let id ← entries (family.idEntry own).key
  let entry ← family.rateEntry? own id
  let bytes ← entries entry.key
  let rate ← family.rateIn? bytes
  rate

namespace Adapter

/-- The adapter is ready, and the registry of its chain has this rate for a foreign asset. -/
structure Rates (a : Adapter) (entries : Entries) (asset : Location) (rate : UInt128) : Prop where
  ready : a.isReady = true
  foreign : a.chain.isNativeLocation asset = false
  registered : ∃ p, a.chain.paraId = some p ∧
    a.chain.family.rateAmong? entries (asset.relativeTo p) = some rate

/-- Over entries that stay as they are, to price a weight in an asset may come to this result. -/
def Charges (a : Adapter) (entries : Entries) (asset : Location) (w : Weight)
    (r : Except AdapterError UInt128) : Prop :=
  ∃ t, (∀ x ∈ t, ReadFrom entries x) ∧ Runs (a.weightToFee w asset).run t r

section
variable {a b : Adapter} {entries entries' : Entries} {asset asset' own : Location}
variable {rate rate' : UInt128} {link : Link} {t : Transcript}

theorem rateAmong?_eq_some {family : ChainFamily} :
    family.rateAmong? entries own = some rate ↔
      ∃ id entry bytes, entries (family.idEntry own).key = some id ∧
        family.rateEntry? own id = some entry ∧ entries entry.key = some bytes ∧
        family.rateIn? bytes = some (some rate) := by
  unfold ChainFamily.rateAmong?
  simp only [Option.bind_eq_bind, Option.bind_eq_some_iff]
  grind

theorem readFrom_both {first second : RegistryEntry}
    {reply reply' : Except NodeError (Option Bytes)}
    (h : ∀ x ∈ [first.read link reply, second.read link reply'], ReadFrom entries x) :
    reply = .ok (entries first.key) ∧ reply' = .ok (entries second.key) := by
  obtain ⟨told, others⟩ := List.forall_mem_cons.mp h
  have last := List.forall_mem_singleton.mp others
  exact ⟨told, last⟩

/-- The only way through the registry is the one to the rate that it has. -/
theorem ratePath_among (link : Link) (h : a.chain.family.rateAmong? entries own = some rate)
    {r : Except AdapterError UInt128} :
    (∃ t, (∀ x ∈ t, ReadFrom entries x) ∧ RatePath a link asset own t r) ↔ r = .ok rate := by
  obtain ⟨id, entry, bytes, hid, hentry, hbytes, hrate⟩ := rateAmong?_eq_some.mp h
  constructor
  · rintro ⟨t, told, path⟩
    -- each path but the last has a reply that is not what the entry holds
    cases path with
    | idUnanswered =>
      have reply := List.forall_mem_singleton.mp told
      cases reply
    | unregistered =>
      have reply := List.forall_mem_singleton.mp told
      cases reply.trans (congrArg Except.ok hid)
    | idUnreadable hi =>
      have reply := List.forall_mem_singleton.mp told
      cases reply.trans (congrArg Except.ok hid)
      cases hentry.symm.trans hi
    | rateUnanswered =>
      have replies := readFrom_both told
      cases replies.2
    | rateAbsent hi => grind [readFrom_both told]
    | rateUnreadable hi hr => grind [readFrom_both told]
    | rateless hi hr => grind [readFrom_both told]
    | rated hi hr => grind [readFrom_both told]
  · rintro rfl
    refine ⟨_, ?_, .rated hentry hrate⟩
    refine List.forall_mem_cons.mpr ⟨?_, List.forall_mem_singleton.mpr ?_⟩
    · exact congrArg Except.ok hid.symm
    · exact congrArg Except.ok hbytes.symm

theorem charges_iff (h : a.Rates entries asset rate) {w : Weight}
    {r : Except AdapterError UInt128} :
    a.Charges entries asset w r ↔ r = a.feeFromRate w rate := by
  obtain ⟨p, placed, registered⟩ := h.registered
  obtain ⟨link, hl⟩ := Option.isSome_iff_exists.mp h.ready
  unfold Charges
  simp only [runs_weightToFee, pricing_foreign h.foreign placed, rating_iff hl]
  constructor
  · rintro ⟨t, told, found, path, rfl⟩
    have only := (ratePath_among link registered).mp ⟨t, told, path⟩
    rw [only]
    rfl
  · rintro rfl
    obtain ⟨t, told, path⟩ := (ratePath_among link registered).mpr rfl
    exact ⟨t, told, _, path, rfl⟩

theorem charges_ok_iff (h : a.Rates entries asset rate) {w : Weight} {fee : UInt128} :
    a.Charges entries asset w (.ok fee) ↔ feeAtRate? w rate = some fee := by
  rw [charges_iff h, feeFromRate]
  cases feeAtRate? w rate with
  | none => simp
  | some priced =>
    rw [Except.ok.injEq, Option.some_inj]
    exact eq_comm

/-- The fee for a weight in a foreign asset is its computation at the registered rate, rounded down,
and it is charged whenever the product fits. Wherever a weight is priced, no more computation at no
higher rate is priced with no more. Two weights together take the fees of both, or a unit more. -/
theorem foreign_fee_monotone (h : a.Rates entries asset rate) :
    (∀ w, (∃ fee, a.Charges entries asset w (.ok fee)) ↔
      w.refTime.toNat * rate.toNat < UInt128.size) ∧
    (∀ w fee, a.Charges entries asset w (.ok fee) →
      fee.toNat * refTimePerSecond ≤ w.refTime.toNat * rate.toNat ∧
        w.refTime.toNat * rate.toNat < (fee.toNat + 1) * refTimePerSecond) ∧
    (∀ {b : Adapter} {entries' : Entries} {asset' : Location} {rate' : UInt128},
      b.Rates entries' asset' rate' → ∀ w w' fee', w.refTime ≤ w'.refTime → rate ≤ rate' →
        b.Charges entries' asset' w' (.ok fee') →
        ∃ fee ≤ fee', ∀ r, a.Charges entries asset w r ↔ r = .ok fee) ∧
    ∀ x y z feeX feeY feeZ, x.checkedAdd y = some z →
      a.Charges entries asset x (.ok feeX) → a.Charges entries asset y (.ok feeY) →
      a.Charges entries asset z (.ok feeZ) →
      feeX.toNat + feeY.toNat ≤ feeZ.toNat ∧ feeZ.toNat ≤ feeX.toNat + feeY.toNat + 1 := by
  refine ⟨?_, ?_, ?_, ?_⟩
  · intro w
    simp only [charges_ok_iff h]
    exact exists_fee w rate
  · intro w fee charged
    exact feeAtRate?_bounds ((charges_ok_iff h).mp charged)
  · intro b entries' asset' rate' h' w w' fee' computation price charged
    obtain ⟨fee, hf, less⟩ := feeAtRate?_mono computation price ((charges_ok_iff h').mp charged)
    have exactly := (charges_iff h).mp ((charges_ok_iff h).mpr hf)
    refine ⟨fee, less, ?_⟩
    intro r
    rw [charges_iff h, ← exactly]
  · intro x y z feeX feeY feeZ total hx hy hz
    exact feeAtRate?_add total ((charges_ok_iff h).mp hx) ((charges_ok_iff h).mp hy)
      ((charges_ok_iff h).mp hz)

end

namespace Sample

def foreign : Location := .siblingParachain 2114

def priced (rate : UInt128) : Entries := fun key =>
  if key = (ChainFamily.moonbeam.idEntry foreign).key then some (encode (7 : UInt128))
  else if key = .entry "AssetManager" "AssetTypeUnitsPerSecond" .blake2x128Concat
      (encode (AssetType.xcm foreign)) then some (encode rate)
  else none

def pricing : Adapter := ⟨.moonbase, some ⟨0, fun _ => .ok []⟩⟩

theorem rates (rate : UInt128) : pricing.Rates (priced rate) foreign rate := by
  refine ⟨rfl, by decide, 1000, rfl, ?_⟩
  have own : foreign.relativeTo 1000 = foreign := by decide
  rw [own, rateAmong?_eq_some]
  refine ⟨_, _, encode rate, if_pos rfl, rfl, ?_, ?_⟩
  · refine (if_neg ?_).trans (if_pos rfl)
    decide +kernel
  · have read : decodeFront UInt128 (encode rate) = some rate := decodeFront_encode trivial
    exact congrArg (Option.map some) read

abbrev charges (rate : UInt128) := pricing.Charges (priced rate) foreign

end Sample

/-- A thousandth of a second is priced at two trillion units for a second, as a whole, beside its
half, and as two halves. -/
theorem foreign_fee_monotone_moonbase :
    Sample.pricing.Rates (Sample.priced 2000000000000) Sample.foreign 2000000000000 ∧
      Sample.charges 2000000000000 ⟨1000000000, 0⟩ (.ok 2000000000) ∧
      ∃ half ≤ 2000000000, Sample.charges 2000000000000 ⟨500000000, 0⟩ (.ok half) ∧
        half.toNat + half.toNat ≤ 2000000000 ∧ 2000000000 ≤ half.toNat + half.toNat + 1 := by
  have found := Sample.rates 2000000000000
  obtain ⟨fits, exact, monotone, additive⟩ := foreign_fee_monotone found
  obtain ⟨fee, whole⟩ := (fits ⟨1000000000, 0⟩).mpr (by decide)
  have told : fee = 2000000000 := by
    obtain ⟨low, high⟩ := exact _ _ whole
    apply BitVec.eq_of_toNat_eq
    simp [refTimePerSecond] at low high ⊢
    omega
  subst told
  obtain ⟨half, less, only⟩ := monotone found ⟨500000000, 0⟩ _ _ (by decide) (by decide) whole
  have part : Sample.charges 2000000000000 ⟨500000000, 0⟩ (.ok half) := (only _).mpr rfl
  obtain ⟨atLeast, atMost⟩ := additive _ _ ⟨1000000000, 0⟩ _ _ _ (by decide) part part whole
  exact ⟨found, whole, half, less, part, atLeast, atMost⟩

/-! ### Refused prices -/

section
variable {a : Adapter} {entries : Entries} {asset : Location} {rate : UInt128}

theorem feeFromRate_eq_error {w : Weight} {e : AdapterError} :
    a.feeFromRate w rate = .error e ↔
      e = .feeOverflow a.key ∧ UInt128.size ≤ scaled w rate := by
  have fits := exists_fee w rate
  unfold feeFromRate
  cases priced : feeAtRate? w rate with
  | none =>
    have large : UInt128.size ≤ scaled w rate := by simpa [priced] using fits
    simp [large, eq_comm]
  | some fee =>
    have small : scaled w rate < UInt128.size := fits.mp ⟨fee, priced⟩
    simp [Nat.not_le_of_lt small]

theorem charges_error_iff (h : a.Rates entries asset rate) {w : Weight} {e : AdapterError} :
    a.Charges entries asset w (.error e) ↔
      e = .feeOverflow a.key ∧ UInt128.size ≤ scaled w rate := by
  rw [charges_iff h, eq_comm, feeFromRate_eq_error]

/-- The product is looked at before it is counted in seconds: a price is refused exactly if the
product is too large, and it is exact otherwise. A price that is too large itself is always refused.
At a rate of 64 bits no price is. -/
theorem price_exact_or_refused (h : a.Rates entries asset rate) (w : Weight) :
    (∀ fee, a.Charges entries asset w (.ok fee) ↔
      w.refTime.toNat * rate.toNat < UInt128.size ∧
        fee.toNat = w.refTime.toNat * rate.toNat / refTimePerSecond) ∧
    (∀ e, a.Charges entries asset w (.error e) ↔
      e = .feeOverflow a.key ∧ UInt128.size ≤ w.refTime.toNat * rate.toNat) ∧
    (UInt128.size ≤ w.refTime.toNat * rate.toNat / refTimePerSecond →
      a.Charges entries asset w (.error (.feeOverflow a.key))) ∧
    (rate.toNat ≤ UInt64.size → ∃ fee, a.Charges entries asset w (.ok fee)) := by
  refine ⟨?_, ?_, ?_, ?_⟩
  · intro fee
    rw [charges_ok_iff h, feeAtRate?_eq_some]
    rfl
  · intro e
    exact charges_error_iff h
  · intro large
    refine (charges_error_iff h).mpr ⟨rfl, ?_⟩
    exact Nat.le_trans large (Nat.div_le_self _ _)
  · intro moderate
    simp only [charges_ok_iff h]
    refine (exists_fee w rate).mpr ?_
    calc scaled w rate
      _ ≤ w.refTime.toNat * UInt64.size := Nat.mul_le_mul_left _ moderate
      _ < UInt64.size * UInt64.size := Nat.mul_lt_mul_of_pos_right w.refTime.toNat_lt (by decide)
      _ = UInt128.size := by decide

end

namespace Sample

def steep : UInt128 := 1000000000000000000000000000

end Sample

/-- A tenth of a second is priced at a steep rate, and a whole one is refused. -/
theorem price_exact_or_refused_moonbase :
    Sample.pricing.Rates (Sample.priced Sample.steep) Sample.foreign Sample.steep ∧
      Sample.charges Sample.steep ⟨100000000000, 0⟩ (.ok 100000000000000000000000000) ∧
      Sample.charges Sample.steep ⟨1000000000000, 0⟩ (.error (.feeOverflow "moonbase-local")) := by
  have found := Sample.rates Sample.steep
  obtain ⟨priced, -⟩ := price_exact_or_refused found ⟨100000000000, 0⟩
  obtain ⟨-, refused, -⟩ := price_exact_or_refused found ⟨1000000000000, 0⟩
  exact ⟨found, (priced _).mpr (by decide), (refused _).mpr ⟨rfl, by decide⟩⟩

/-- The price of a whole second is the rate, which 128 bits have room for. -/
theorem representable_refused :
    Sample.pricing.Rates (Sample.priced Sample.steep) Sample.foreign Sample.steep ∧
      (∀ r, Sample.charges Sample.steep ⟨1000000000000, 0⟩ r ↔
        r = .error (.feeOverflow "moonbase-local")) ∧
      1000000000000 * Sample.steep.toNat / refTimePerSecond = Sample.steep.toNat ∧
      Sample.steep.toNat < UInt128.size := by
  have found := Sample.rates Sample.steep
  have refused : Sample.pricing.feeFromRate ⟨1000000000000, 0⟩ Sample.steep =
      .error (.feeOverflow "moonbase-local") := feeFromRate_eq_error.mpr ⟨rfl, by decide⟩
  refine ⟨found, ?_, by decide, by decide⟩
  intro r
  rw [← refused]
  exact charges_iff found

end Adapter

end XcmTasks
