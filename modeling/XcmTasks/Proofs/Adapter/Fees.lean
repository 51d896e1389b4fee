import XcmTasks.Chain.Local
import XcmTasks.Proofs.Adapter.Pricing

/-!
The decision tree that the families share when they price a weight. The tree is written over the
entries of each family's registry and over the bytes that the node keeps there, so a path through it
is the list of the requests with their replies.
-/

namespace XcmTasks

open Dialogue

/-- An entry of a registry of assets, with the name that it has in errors. -/
structure RegistryEntry where
  key : StorageKey
  name : String

def RegistryEntry.read (entry : RegistryEntry) (link : Link)
    (reply : Except NodeError (Option Bytes)) : Exchange Action Action.Answer :=
  ⟨.send link (.storage entry.key), reply⟩

namespace ChainFamily

def idEntry (own : Location) : ChainFamily → RegistryEntry
  | .oak | .mangata =>
    ⟨.entry "AssetRegistry" "LocationToAssetId" .twox64Concat (encode own), "LocationToAssetId"⟩
  | .moonbeam =>
    ⟨.entry "AssetManager" "AssetTypeId" .blake2x128Concat (encode (AssetType.xcm own)),
      "AssetTypeId"⟩
  | .astar =>
    ⟨.entry "XcAssetConfig" "AssetLocationToId" .twox64Concat (encode own.versioned),
      "AssetLocationToId"⟩

/-- The entry with the rate of the asset at `own`, if these bytes are an id. Some families keep it
by that id and some by the location. -/
def rateEntry? (own : Location) (idBytes : Bytes) : ChainFamily → Option RegistryEntry
  | .oak | .mangata => (decodeFront UInt32 idBytes).map fun id =>
    ⟨.entry "AssetRegistry" "Metadata" .twox64Concat (encode id), "AssetMetadata"⟩
  | .moonbeam => (decodeFront UInt128 idBytes).map fun _ =>
    ⟨.entry "AssetManager" "AssetTypeUnitsPerSecond" .blake2x128Concat (encode (AssetType.xcm own)),
      "AssetTypeUnitsPerSecond"⟩
  | .astar => (decodeFront UInt128 idBytes).map fun _ =>
    ⟨.entry "XcAssetConfig" "AssetLocationUnitsPerSecond" .twox64Concat (encode own.versioned),
      "AssetLocationUnitsPerSecond"⟩

/-- The rate in the bytes of an entry, if they are an entry and it carries one. -/
def rateIn? (bytes : Bytes) : ChainFamily → Option (Option UInt128)
  | .oak => (decodeFront OakAsset bytes).map fun record => record.additional.feePerSecond
  | .mangata => (decodeFront MangataAsset bytes).map fun record =>
    record.additional.xcm.map XcmFee.feePerSecond
  | .moonbeam | .astar => (decodeFront UInt128 bytes).map some

variable (family : ChainFamily) (own : Location) (bytes : Bytes)

theorem idEntry_eq :
    family.idEntry own = ⟨family.rateTable.idKey own, family.rateTable.idName⟩ := by
  cases family <;> rfl

theorem rateEntry?_eq :
    family.rateEntry? own bytes =
      (@decodeFront _ family.rateTable.scaleId bytes).map fun id =>
        ⟨family.rateTable.entryKey own id, family.rateTable.entryName⟩ := by
  cases family <;> rfl

theorem rateIn?_eq :
    family.rateIn? bytes =
      (@decodeFront _ family.rateTable.scaleEntry bytes).map family.rateTable.rate? := by
  cases family <;> rfl

end ChainFamily

namespace Adapter

variable {a : Adapter} {link : Link} {t : Transcript}

def unreadable (a : Adapter) (entry : RegistryEntry) : AdapterError :=
  .undecodable (entry.name ++ " on " ++ a.key ++ ": " ++ Decoder.failureText)

/-! ### Lookups over a link -/

section
variable {α : Type} [Scale α] (entry : RegistryEntry)

theorem lookup_error (hl : a.link = some link) {e : AdapterError} :
    Lookup a α entry.key entry.name t (.error e) ↔
      (∃ cause : NodeError, t = [entry.read link (.error cause)] ∧ e = .ofNode cause) ∨
        ∃ bytes : Bytes, decodeFront α bytes = none ∧ t = [entry.read link (.ok (some bytes))] ∧
          e = a.unreadable entry := by
  refine ⟨?_, ?_⟩
  · intro h
    cases h with
    | unlinked hn => cases hl.symm.trans hn
    | unanswered hl' =>
      cases hl.symm.trans hl'
      exact .inl ⟨_, rfl, rfl⟩
    | undecodable hl' hd =>
      cases hl.symm.trans hl'
      exact .inr ⟨_, hd, rfl, rfl⟩
  · rintro (⟨cause, rfl, rfl⟩ | ⟨bytes, hd, rfl, rfl⟩)
    · exact .unanswered hl
    · exact .undecodable hl hd

theorem lookup_none (hl : a.link = some link) :
    Lookup a α entry.key entry.name t (.ok none) ↔ t = [entry.read link (.ok none)] := by
  refine ⟨?_, ?_⟩
  · intro h
    cases h with
    | absent hl' =>
      cases hl.symm.trans hl'
      rfl
  · rintro rfl
    exact .absent hl

theorem lookup_some (hl : a.link = some link) {value : α} :
    Lookup a α entry.key entry.name t (.ok (some value)) ↔
      ∃ bytes : Bytes, decodeFront α bytes = some value ∧
        t = [entry.read link (.ok (some bytes))] := by
  refine ⟨?_, ?_⟩
  · intro h
    cases h with
    | present hl' hd =>
      cases hl.symm.trans hl'
      exact ⟨_, hd, rfl⟩
  · rintro ⟨bytes, hd, rfl⟩
    exact .present hl hd

end

/-! ### The tree -/

/-- How the rate of a foreign asset may be found over a link. The chain sees the asset at `own`. -/
inductive RatePath (a : Adapter) (link : Link) (asset own : Location) :
    Transcript → Except AdapterError UInt128 → Prop where
  | idUnanswered {e : NodeError} :
      RatePath a link asset own [(a.chain.family.idEntry own).read link (.error e)]
        (.error (.ofNode e))
  | unregistered :
      RatePath a link asset own [(a.chain.family.idEntry own).read link (.ok none)]
        (.error (.unresolvedAsset a.key asset.describe .notRegistered))
  | idUnreadable {id : Bytes} (hi : a.chain.family.rateEntry? own id = none) :
      RatePath a link asset own [(a.chain.family.idEntry own).read link (.ok (some id))]
        (.error (a.unreadable (a.chain.family.idEntry own)))
  | rateUnanswered {id : Bytes} {entry : RegistryEntry} {e : NodeError}
      (hi : a.chain.family.rateEntry? own id = some entry) :
      RatePath a link asset own
        [(a.chain.family.idEntry own).read link (.ok (some id)), entry.read link (.error e)]
        (.error (.ofNode e))
  | rateAbsent {id : Bytes} {entry : RegistryEntry}
      (hi : a.chain.family.rateEntry? own id = some entry) :
      RatePath a link asset own
        [(a.chain.family.idEntry own).read link (.ok (some id)), entry.read link (.ok none)]
        (.error (.unresolvedAsset a.key asset.describe .noRate))
  | rateUnreadable {id bytes : Bytes} {entry : RegistryEntry}
      (hi : a.chain.family.rateEntry? own id = some entry)
      (hr : a.chain.family.rateIn? bytes = none) :
      RatePath a link asset own
        [(a.chain.family.idEntry own).read link (.ok (some id)), entry.read link (.ok (some bytes))]
        (.error (a.unreadable entry))
  | rateless {id bytes : Bytes} {entry : RegistryEntry}
      (hi : a.chain.family.rateEntry? own id = some entry)
      (hr : a.chain.family.rateIn? bytes = some none) :
      RatePath a link asset own
        [(a.chain.family.idEntry own).read link (.ok (some id)), entry.read link (.ok (some bytes))]
        (.error (.unresolvedAsset a.key asset.describe .noRate))
  | rated {id bytes : Bytes} {entry : RegistryEntry} {rate : UInt128}
      (hi : a.chain.family.rateEntry? own id = some entry)
      (hr : a.chain.family.rateIn? bytes = some (some rate)) :
      RatePath a link asset own
        [(a.chain.family.idEntry own).read link (.ok (some id)), entry.read link (.ok (some bytes))]
        (.ok rate)

section
variable {asset own : Location}

theorem RatePath.of_rating (hl : a.link = some link) {r : Except AdapterError UInt128}
    (h : Rating a asset own t r) : RatePath a link asset own t r := by
  let := a.rates.scaleId
  let := a.rates.scaleEntry
  -- what was decoded, in terms of the bytes that it was decoded from
  have idOf {bytes : Bytes} {id : a.rates.Id} (hd : decodeFront a.rates.Id bytes = some id) :
      a.chain.family.rateEntry? own bytes = some ⟨a.rates.entryKey own id, a.rates.entryName⟩ := by
    rw [ChainFamily.rateEntry?_eq, hd]
    rfl
  cases h with
  | idFailed hi =>
    rcases (lookup_error ⟨_, _⟩ hl).mp hi with ⟨cause, rfl, rfl⟩ | ⟨bytes, hd, rfl, rfl⟩
    · rw [← ChainFamily.idEntry_eq]
      exact .idUnanswered
    · rw [← ChainFamily.idEntry_eq]
      refine .idUnreadable ?_
      rw [ChainFamily.rateEntry?_eq, hd]
      rfl
  | unregistered hi =>
    obtain rfl := (lookup_none ⟨_, _⟩ hl).mp hi
    rw [← ChainFamily.idEntry_eq]
    exact .unregistered
  | entryFailed hi he =>
    obtain ⟨id, hd, rfl⟩ := (lookup_some ⟨_, _⟩ hl).mp hi
    rw [← ChainFamily.idEntry_eq]
    rcases (lookup_error ⟨_, _⟩ hl).mp he with ⟨cause, rfl, rfl⟩ | ⟨bytes, hn, rfl, rfl⟩
    · exact .rateUnanswered (idOf hd)
    · refine .rateUnreadable (idOf hd) ?_
      rw [ChainFamily.rateIn?_eq, hn]
      rfl
  | @unrated _ _ _ entry hi he hr =>
    obtain ⟨id, hd, rfl⟩ := (lookup_some ⟨_, _⟩ hl).mp hi
    rw [← ChainFamily.idEntry_eq]
    cases entry with
    | none =>
      obtain rfl := (lookup_none ⟨_, _⟩ hl).mp he
      exact .rateAbsent (idOf hd)
    | some value =>
      obtain ⟨bytes, hv, rfl⟩ := (lookup_some ⟨_, _⟩ hl).mp he
      refine .rateless (idOf hd) ?_
      rw [ChainFamily.rateIn?_eq, hv]
      exact congrArg some hr
  | @rated _ _ _ entry rate hi he hr =>
    obtain ⟨id, hd, rfl⟩ := (lookup_some ⟨_, _⟩ hl).mp hi
    rw [← ChainFamily.idEntry_eq]
    cases entry with
    | none => cases hr
    | some value =>
      obtain ⟨bytes, hv, rfl⟩ := (lookup_some ⟨_, _⟩ hl).mp he
      refine .rated (idOf hd) ?_
      rw [ChainFamily.rateIn?_eq, hv]
      exact congrArg some hr

theorem RatePath.rating (hl : a.link = some link) {r : Except AdapterError UInt128}
    (h : RatePath a link asset own t r) : Rating a asset own t r := by
  let := a.rates.scaleId
  let := a.rates.scaleEntry
  -- the id behind the bytes from which the second entry was found
  have idOf {bytes : Bytes} {entry : RegistryEntry}
      (hi : a.chain.family.rateEntry? own bytes = some entry) :
      ∃ id, entry = ⟨a.rates.entryKey own id, a.rates.entryName⟩ ∧
        IdLookup a own [(a.chain.family.idEntry own).read link (.ok (some bytes))]
          (.ok (some id)) := by
    rw [ChainFamily.rateEntry?_eq] at hi
    obtain ⟨id, hd, rfl⟩ := Option.map_eq_some_iff.mp hi
    rw [ChainFamily.idEntry_eq]
    exact ⟨id, rfl, (lookup_some ⟨_, _⟩ hl).mpr ⟨bytes, hd, rfl⟩⟩
  cases h with
  | idUnanswered =>
    rw [ChainFamily.idEntry_eq]
    exact .idFailed ((lookup_error ⟨_, _⟩ hl).mpr (.inl ⟨_, rfl, rfl⟩))
  | unregistered =>
    rw [ChainFamily.idEntry_eq]
    exact .unregistered ((lookup_none ⟨_, _⟩ hl).mpr rfl)
  | idUnreadable hi =>
    rw [ChainFamily.rateEntry?_eq] at hi
    rw [ChainFamily.idEntry_eq]
    refine .idFailed ((lookup_error ⟨_, _⟩ hl).mpr (.inr ⟨_, ?_, rfl, rfl⟩))
    exact Option.map_eq_none_iff.mp hi
  | rateUnanswered hi =>
    obtain ⟨id, rfl, hid⟩ := idOf hi
    exact Rating.entryFailed hid ((lookup_error ⟨_, _⟩ hl).mpr (.inl ⟨_, rfl, rfl⟩))
  | rateAbsent hi =>
    obtain ⟨id, rfl, hid⟩ := idOf hi
    exact Rating.unrated hid ((lookup_none ⟨_, _⟩ hl).mpr rfl) rfl
  | rateUnreadable hi hr =>
    obtain ⟨id, rfl, hid⟩ := idOf hi
    rw [ChainFamily.rateIn?_eq] at hr
    refine Rating.entryFailed hid ((lookup_error ⟨_, _⟩ hl).mpr (.inr ⟨_, ?_, rfl, rfl⟩))
    exact Option.map_eq_none_iff.mp hr
  | rateless hi hr =>
    obtain ⟨id, rfl, hid⟩ := idOf hi
    rw [ChainFamily.rateIn?_eq] at hr
    obtain ⟨value, hv, hr⟩ := Option.map_eq_some_iff.mp hr
    exact Rating.unrated hid ((lookup_some ⟨_, _⟩ hl).mpr ⟨_, hv, rfl⟩) hr
  | rated hi hr =>
    obtain ⟨id, rfl, hid⟩ := idOf hi
    rw [ChainFamily.rateIn?_eq] at hr
    obtain ⟨value, hv, hr⟩ := Option.map_eq_some_iff.mp hr
    exact Rating.rated hid ((lookup_some ⟨_, _⟩ hl).mpr ⟨_, hv, rfl⟩) hr

theorem rating_iff (hl : a.link = some link) {r : Except AdapterError UInt128} :
    Rating a asset own t r ↔ RatePath a link asset own t r :=
  ⟨.of_rating hl, fun h => h.rating hl⟩

end

def feeFromRate (a : Adapter) (weight : Weight) (rate : UInt128) : Except AdapterError UInt128 :=
  match feeAtRate? weight rate with
  | some fee => .ok fee
  | none => .error (.feeOverflow a.key)

section
variable {weight : Weight} {asset : Location} {r : Except AdapterError UInt128}

theorem pricing_native (hn : a.chain.isNativeLocation asset = true) (hl : a.link = some link) :
    Pricing a weight asset t r ↔
      ∃ reply : Except NodeError UInt128,
        t = [⟨.send link (.weightToFee weight), reply⟩] ∧ r = reply.mapError .ofNode := by
  refine ⟨?_, ?_⟩
  · intro h
    cases h with
    | nativeUnlinked _ hl' => cases hl.symm.trans hl'
    | nativeUnanswered _ hl' =>
      cases hl.symm.trans hl'
      exact ⟨.error _, rfl, rfl⟩
    | nativePriced _ hl' =>
      cases hl.symm.trans hl'
      exact ⟨.ok _, rfl, rfl⟩
    | homeless hf => cases hn.symm.trans hf
    | unrated hf => cases hn.symm.trans hf
    | overflowing hf => cases hn.symm.trans hf
    | priced hf => cases hn.symm.trans hf
  · rintro ⟨e | fee, rfl, rfl⟩
    · exact .nativeUnanswered hn hl
    · exact .nativePriced hn hl

theorem pricing_foreign {paraId : UInt32} (hn : a.chain.isNativeLocation asset = false)
    (hp : a.chain.paraId = some paraId) :
    Pricing a weight asset t r ↔
      ∃ rate, Rating a asset (asset.relativeTo paraId) t rate ∧
        r = rate.bind (a.feeFromRate weight) := by
  refine ⟨?_, ?_⟩
  · intro h
    cases h with
    | nativeUnlinked hf => cases hn.symm.trans hf
    | nativeUnanswered hf => cases hn.symm.trans hf
    | nativePriced hf => cases hn.symm.trans hf
    | homeless _ hp' => cases hp.symm.trans hp'
    | unrated _ hp' hr =>
      cases hp.symm.trans hp'
      exact ⟨_, hr, rfl⟩
    | overflowing _ hp' hr hf =>
      cases hp.symm.trans hp'
      refine ⟨_, hr, ?_⟩
      simp only [Except.bind, feeFromRate, hf]
    | priced _ hp' hr hf =>
      cases hp.symm.trans hp'
      refine ⟨_, hr, ?_⟩
      simp only [Except.bind, feeFromRate, hf]
  · rintro ⟨e | rate, hr, rfl⟩
    · exact .unrated hn hp hr
    · cases hf : feeAtRate? weight rate with
      | none =>
        simp only [Except.bind, feeFromRate, hf]
        exact .overflowing hn hp hr hf
      | some fee =>
        simp only [Except.bind, feeFromRate, hf]
        exact .priced hn hp hr hf

/-- A ready adapter prices a native asset with one question to its chain, and a foreign one by the
path through the registry of the family, and there is no other way. -/
theorem weightToFee_branches {paraId : UInt32} (hl : a.link = some link)
    (hp : a.chain.paraId = some paraId) :
    Runs (a.weightToFee weight asset).run t r ↔
      if a.chain.isNativeLocation asset then
        ∃ reply : Except NodeError UInt128,
          t = [⟨.send link (.weightToFee weight), reply⟩] ∧ r = reply.mapError .ofNode
      else
        ∃ rate, RatePath a link asset (asset.relativeTo paraId) t rate ∧
          r = rate.bind (a.feeFromRate weight) := by
  rw [runs_weightToFee]
  cases hn : a.chain.isNativeLocation asset with
  | true =>
    rw [if_pos rfl]
    exact pricing_native hn hl
  | false =>
    rw [if_neg Bool.false_ne_true, pricing_foreign hn hp]
    simp only [rating_iff hl]

/-- A sibling's currency, at a rate of two for each unit of computation. -/
theorem weightToFee_branches_moonbase :
    Runs (weightToFee ⟨.moonbase, some ⟨0, fun _ => .ok []⟩⟩ ⟨1000000000, 0⟩
        (.siblingParachain 2114)).run
      [RegistryEntry.read ⟨.entry "AssetManager" "AssetTypeId" .blake2x128Concat
            (encode (AssetType.xcm (.siblingParachain 2114))), "AssetTypeId"⟩
          ⟨0, fun _ => .ok []⟩ (.ok (some (encode (7 : UInt128)))),
        RegistryEntry.read ⟨.entry "AssetManager" "AssetTypeUnitsPerSecond" .blake2x128Concat
            (encode (AssetType.xcm (.siblingParachain 2114))), "AssetTypeUnitsPerSecond"⟩
          ⟨0, fun _ => .ok []⟩ (.ok (some (encode (2000000000000 : UInt128))))]
      (.ok 2000000000) := by
  have own : (Location.siblingParachain 2114).relativeTo 1000 = .siblingParachain 2114 := by decide
  refine (weightToFee_branches rfl rfl).mpr ?_
  rw [if_neg (by decide), own]
  exact ⟨.ok 2000000000000, .rated rfl rfl, rfl⟩

end

end Adapter

end XcmTasks
