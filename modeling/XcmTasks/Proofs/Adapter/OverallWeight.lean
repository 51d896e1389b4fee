import Mathlib.Tactic.ByContra
import XcmTasks.Chain.Local
import XcmTasks.Proofs.Adapter.Asking
import XcmTasks.Proofs.Weight

/-!
What a call weighs with the instructions around it. The weight that is told is the whole sum of the
dry run and the instructions, and where that sum does not fit into 64 bits, none is told.
-/

namespace XcmTasks

open Dialogue

variable {a : Adapter} {weight weight' overall : Weight} {instructions instructions' : UInt64}

/-! ### Sums without a bound -/

namespace Adapter

def fullRefTime (a : Adapter) (weight : Weight) (instructions : UInt64) : Nat :=
  weight.refTime.toNat + instructions.toNat * a.chain.instructionWeight.refTime.toNat

def fullProofSize (a : Adapter) (weight : Weight) (instructions : UInt64) : Nat :=
  weight.proofSize.toNat + instructions.toNat * a.chain.instructionWeight.proofSize.toNat

/-- A component of the sum is larger than any word of 64 bits. -/
def Overflows (a : Adapter) (weight : Weight) (instructions : UInt64) : Prop :=
  UInt64.size - 1 < a.fullRefTime weight instructions ∨
    UInt64.size - 1 < a.fullProofSize weight instructions

theorem overallWeight?_eq_some :
    a.overallWeight? weight instructions = some overall ↔
      overall.refTime.toNat = a.fullRefTime weight instructions ∧
        overall.proofSize.toNat = a.fullProofSize weight instructions := by
  refine ⟨overallWeight?_exact, ?_⟩
  rintro ⟨hr, hp⟩
  unfold fullRefTime at hr
  unfold fullProofSize at hp
  have boundRefTime := overall.refTime.toNat_lt_size
  have boundProofSize := overall.proofSize.toNat_lt_size
  -- the instructions alone fit, as they are part of a sum that does
  obtain ⟨around, hm⟩ : ∃ around,
      a.chain.instructionWeight.checkedMul instructions = some around := by
    refine ⟨⟨.ofNat (a.chain.instructionWeight.refTime.toNat * instructions.toNat),
      .ofNat (a.chain.instructionWeight.proofSize.toNat * instructions.toNat)⟩, ?_⟩
    rw [Nat.mul_comm] at hr hp
    refine Weight.checkedMul_eq_some.mpr ⟨?_, ?_⟩
    · exact toNat_word64 (by omega)
    · exact toNat_word64 (by omega)
  obtain ⟨hmr, hmp⟩ := Weight.checkedMul_eq_some.mp hm
  unfold overallWeight?
  rw [hm]
  refine Weight.checkedAdd_eq_some.mpr ⟨?_, ?_⟩
  · rw [hr, hmr, Nat.mul_comm]
  · rw [hp, hmp, Nat.mul_comm]

theorem overallWeight?_eq_none :
    a.overallWeight? weight instructions = none ↔ a.Overflows weight instructions := by
  unfold Overflows
  cases ho : a.overallWeight? weight instructions with
  | some overall =>
    obtain ⟨hr, hp⟩ := overallWeight?_eq_some.mp ho
    have boundRefTime := overall.refTime.toNat_lt_size
    have boundProofSize := overall.proofSize.toNat_lt_size
    simp only [reduceCtorEq, false_iff]
    omega
  | none =>
    refine ⟨?_, fun _ => rfl⟩
    intro _
    by_contra small
    have positive : 0 < UInt64.size := by decide
    -- words with the components of the sum would be told
    have fits : a.overallWeight? weight instructions =
        some ⟨.ofNat (a.fullRefTime weight instructions),
          .ofNat (a.fullProofSize weight instructions)⟩ := by
      refine overallWeight?_eq_some.mpr ⟨?_, ?_⟩
      · exact toNat_word64 (by omega)
      · exact toNat_word64 (by omega)
    rw [ho] at fits
    cases fits

/-- A sum that fits is the saturated one, and more of the call or of the instructions is no less. -/
theorem overallWeight?_saturated (h : a.overallWeight? weight instructions = some overall) :
    overall = weight + a.chain.instructionWeight * instructions := by
  obtain ⟨hr, hp⟩ := overallWeight?_eq_some.mp h
  unfold fullRefTime at hr
  unfold fullProofSize at hp
  have boundRefTime := overall.refTime.toNat_lt_size
  have boundProofSize := overall.proofSize.toNat_lt_size
  rw [Nat.mul_comm] at hr hp
  apply Weight.ext
  · change _ = (clamp64 (_ + (clamp64 _).toNat)).toNat
    rw [toNat_clamp64, toNat_clamp64]
    omega
  · change _ = (clamp64 (_ + (clamp64 _).toNat)).toNat
    rw [toNat_clamp64, toNat_clamp64]
    omega

theorem allLte_overallWeight (h : a.overallWeight? weight instructions = some overall) :
    weight.allLte overall = true := by
  obtain ⟨hr, hp⟩ := overallWeight?_eq_some.mp h
  unfold fullRefTime at hr
  unfold fullProofSize at hp
  exact Weight.allLte_iff.mpr ⟨by omega, by omega⟩

theorem overallWeight?_mono {overall' : Weight} (hw : weight.allLte weight' = true)
    (hi : instructions ≤ instructions')
    (h : a.overallWeight? weight' instructions' = some overall') :
    ∃ overall, a.overallWeight? weight instructions = some overall ∧
      overall.allLte overall' = true := by
  obtain ⟨lessRefTime, lessProofSize⟩ := Weight.allLte_iff.mp hw
  obtain ⟨hr, hp⟩ := overallWeight?_eq_some.mp h
  have count : instructions.toNat ≤ instructions'.toNat := UInt64.le_iff_toNat_le.mp hi
  have moreRefTime : a.fullRefTime weight instructions ≤ overall'.refTime.toNat := by
    rw [hr]
    exact Nat.add_le_add lessRefTime (Nat.mul_le_mul_right _ count)
  have moreProofSize : a.fullProofSize weight instructions ≤ overall'.proofSize.toNat := by
    rw [hp]
    exact Nat.add_le_add lessProofSize (Nat.mul_le_mul_right _ count)
  have boundRefTime := overall'.refTime.toNat_lt_size
  have boundProofSize := overall'.proofSize.toNat_lt_size
  cases ho : a.overallWeight? weight instructions with
  | none =>
    have exceeds := overallWeight?_eq_none.mp ho
    unfold Overflows at exceeds
    omega
  | some overall =>
    obtain ⟨hr', hp'⟩ := overallWeight?_eq_some.mp ho
    exact ⟨overall, rfl, Weight.allLte_iff.mpr ⟨by omega, by omega⟩⟩

/-! ### What is told of a call -/

def total (a : Adapter) (bytes : Bytes) (weight : Weight) (instructions : UInt64) :
    Except AdapterError XcmWeight :=
  match a.overallWeight? weight instructions with
  | some overall => .ok ⟨bytes, weight, overall⟩
  | none => .error (.weightOverflow a.key)

/-- The sum is told as it is, or an overflow if there is one. -/
structure Totalled (a : Adapter) (bytes : Bytes) (weight : Weight) (instructions : UInt64)
    (r : Except AdapterError XcmWeight) : Prop where
  overflow : r = .error (.weightOverflow a.key) ↔ a.Overflows weight instructions
  sum : ¬ a.Overflows weight instructions → ∃ overall, r = .ok ⟨bytes, weight, overall⟩ ∧
    overall.refTime.toNat = a.fullRefTime weight instructions ∧
    overall.proofSize.toNat = a.fullProofSize weight instructions ∧
    overall = weight + a.chain.instructionWeight * instructions ∧ weight.allLte overall = true

theorem totalled (a : Adapter) (bytes : Bytes) (weight : Weight) (instructions : UInt64) :
    Totalled a bytes weight instructions (a.total bytes weight instructions) := by
  unfold total
  cases ho : a.overallWeight? weight instructions with
  | none =>
    have exceeds := overallWeight?_eq_none.mp ho
    exact ⟨⟨fun _ => exceeds, fun _ => rfl⟩, fun small => absurd exceeds small⟩
  | some overall =>
    have small : ¬ a.Overflows weight instructions := by
      intro exceeds
      rw [← overallWeight?_eq_none, ho] at exceeds
      cases exceeds
    obtain ⟨hr, hp⟩ := overallWeight?_eq_some.mp ho
    refine ⟨⟨?_, fun exceeds => absurd exceeds small⟩, ?_⟩
    · intro h
      cases h
    · intro _
      exact ⟨overall, rfl, hr, hp, overallWeight?_saturated ho, allLte_overallWeight ho⟩

variable {link : Link} {call : Call} {bytes : Bytes} {sender : AccountId} {t : Transcript}

theorem runs_xcmWeight_of_ready (hl : a.link = some link) (hc : link.encodeCall call = .ok bytes)
    {r : Except AdapterError XcmWeight} :
    Runs (a.xcmWeight call sender instructions).run t r ↔
      ∃ reply : Except NodeError PaymentInfo,
        t = [⟨.send link (.paymentInfo bytes sender), reply⟩] ∧
          r = (reply.mapError .ofNode).bind fun info => a.total bytes info.weight instructions := by
  rw [runs_xcmWeight]
  refine ⟨?_, ?_⟩
  · intro h
    cases h with
    | unlinked hn => cases hl.symm.trans hn
    | unencodable hl' hc' =>
      cases hl.symm.trans hl'
      cases hc.symm.trans hc'
    | @unanswered _ _ e hl' hc' =>
      cases hl.symm.trans hl'
      cases hc.symm.trans hc'
      exact ⟨.error e, rfl, rfl⟩
    | @overflowing _ _ info hl' hc' ho =>
      cases hl.symm.trans hl'
      cases hc.symm.trans hc'
      refine ⟨.ok info, rfl, ?_⟩
      change _ = a.total bytes info.weight instructions
      rw [total, ho]
    | @weighed _ _ info overall hl' hc' ho =>
      cases hl.symm.trans hl'
      cases hc.symm.trans hc'
      refine ⟨.ok info, rfl, ?_⟩
      change _ = a.total bytes info.weight instructions
      rw [total, ho]
  · rintro ⟨e | info, rfl, rfl⟩
    · exact .unanswered hl hc
    · change Weighing a call sender instructions _ (a.total bytes info.weight instructions)
      rw [total]
      cases ho : a.overallWeight? info.weight instructions with
      | none => exact .overflowing hl hc ho
      | some overall => exact .weighed hl hc ho

def dryRun (link : Link) (bytes : Bytes) (sender : AccountId)
    (reply : Except NodeError PaymentInfo) : Exchange Action Action.Answer :=
  ⟨.send link (.paymentInfo bytes sender), reply⟩

/-- A ready adapter that can encode a call has exactly these bytes dry-run, and tells the whole
weight or its overflow. What weighs no more, within no more instructions, is told with no more. -/
theorem xcmWeight_exact (hl : a.link = some link) (hc : link.encodeCall call = .ok bytes)
    (sender : AccountId) (instructions : UInt64) (info : PaymentInfo) :
    (∃ r, Runs (a.xcmWeight call sender instructions).run [dryRun link bytes sender (.ok info)] r) ∧
      (∀ r, Runs (a.xcmWeight call sender instructions).run
          [dryRun link bytes sender (.ok info)] r → Totalled a bytes info.weight instructions r) ∧
      (∀ t r, Runs (a.xcmWeight call sender instructions).run t r →
        ∃ reply, t = [dryRun link bytes sender reply]) ∧
      ∀ (info' : PaymentInfo) (instructions' : UInt64) (w' : XcmWeight),
        info.weight.allLte info'.weight = true → instructions ≤ instructions' →
        Runs (a.xcmWeight call sender instructions').run
          [dryRun link bytes sender (.ok info')] (.ok w') →
        ∃ w, Runs (a.xcmWeight call sender instructions).run
            [dryRun link bytes sender (.ok info)] (.ok w) ∧
          w.overallWeight.allLte w'.overallWeight = true := by
  have answered {info : PaymentInfo} {instructions : UInt64} {r : Except AdapterError XcmWeight} :
      Runs (a.xcmWeight call sender instructions).run [dryRun link bytes sender (.ok info)] r ↔
        r = a.total bytes info.weight instructions := by
    rw [runs_xcmWeight_of_ready hl hc]
    refine ⟨?_, fun h => ⟨.ok info, rfl, h⟩⟩
    rintro ⟨reply, ht, rfl⟩
    cases ht
    rfl
  refine ⟨⟨_, answered.mpr rfl⟩, ?_, ?_, ?_⟩
  · intro r h
    rw [answered.mp h]
    exact totalled a bytes info.weight instructions
  · intro t r h
    obtain ⟨reply, ht, -⟩ := (runs_xcmWeight_of_ready hl hc).mp h
    exact ⟨reply, ht⟩
  · intro info' instructions' w' hw hi h
    have told := answered.mp h
    unfold total at told
    cases ho : a.overallWeight? info'.weight instructions' with
    | none =>
      rw [ho] at told
      cases told
    | some overall' =>
      rw [ho] at told
      cases told
      obtain ⟨overall, ho', less⟩ := overallWeight?_mono hw hi ho
      refine ⟨⟨bytes, info.weight, overall⟩, answered.mpr ?_, less⟩
      rw [total, ho']

def sampleLink : Link := ⟨0, fun _ => .ok [10, 7]⟩

/-- The call takes up all computation that fits, so that nothing is left for the instructions. -/
theorem xcmWeight_exact_moonbase :
    Runs (xcmWeight ⟨.moonbase, some sampleLink⟩ (.new "Balances" "transfer") (.key20 .zero) 1).run
      [dryRun sampleLink [10, 7] (.key20 .zero) (.ok ⟨⟨18446744073709551615, 0⟩, 0, 0⟩)]
      (.error (.weightOverflow "moonbase-local")) := by
  have hl : (⟨.moonbase, some sampleLink⟩ : Adapter).link = some sampleLink := rfl
  have hc : sampleLink.encodeCall (.new "Balances" "transfer") = .ok [10, 7] := rfl
  obtain ⟨⟨r, hr⟩, told, -⟩ :=
    xcmWeight_exact hl hc (.key20 .zero) 1 ⟨⟨18446744073709551615, 0⟩, 0, 0⟩
  have exceeds : r = .error (.weightOverflow "moonbase-local") :=
    (told r hr).overflow.mpr (.inl (by decide))
  rw [← exceeds]
  exact hr

end Adapter

end XcmTasks
