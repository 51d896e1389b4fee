import Mathlib.Data.List.Nodup
import XcmTasks.Chain.Local
import XcmTasks.Proofs.LetterCase

/-!
Symbols of assets. The symbols of a valid chain differ in lower case, in any script. A symbol is
looked up in any case of its ASCII letters, which is the same in lower case, and so it is found as
one asset at most.
-/

namespace XcmTasks.Chain

open Text

variable {chain : Chain}

/-! ### Repeated symbols -/

theorem repeated?_eq_none {seen : List String} {assets : List Asset} :
    repeated? seen assets = none ↔
      (assets.map fun asset => lowercase asset.symbol).Nodup ∧
        ∀ asset ∈ assets, lowercase asset.symbol ∉ seen := by
  induction assets generalizing seen with
  | nil => simp [repeated?]
  | cons asset assets ih =>
    unfold repeated?
    by_cases again : lowercase asset.symbol ∈ seen
    · simp [again]
    · simp only [List.contains_eq_mem, again, decide_false, Bool.false_eq_true, if_false, ih,
        List.mem_cons, List.map_cons, List.nodup_cons, List.mem_map, forall_eq_or_imp]
      grind

theorem nodup_of_validate (valid : chain.validate = .ok ()) :
    (chain.allAssets.map fun asset => lowercase asset.symbol).Nodup := by
  have unrepeated : repeated? [] chain.allAssets = none := by
    cases again : repeated? [] chain.allAssets with
    | none => rfl
    | some asset =>
      have refused : chain.validate ≠ .ok () := by grind [validate]
      exact absurd valid refused
  exact (repeated?_eq_none.mp unrepeated).1

/-! ### Lookup -/

/-- Whether the lookup comes to nothing does not depend on the chain being valid. -/
theorem findAsset?_eq_none {s : String} :
    chain.findAsset? s = none ↔ ∀ asset ∈ chain.allAssets, ¬SameButCase asset.symbol s := by
  unfold findAsset?
  simp only [List.find?_eq_none, eqIgnoringCase_iff]

theorem sameButCase_of_findAsset? {s : String} {asset : Asset}
    (h : chain.findAsset? s = some asset) :
    asset ∈ chain.allAssets ∧ SameButCase asset.symbol s := by
  unfold findAsset? at h
  have equal := List.find?_some h
  exact ⟨List.mem_of_find?_eq_some h, eqIgnoringCase_iff.mp equal⟩

/-- What is meant by a symbol is found, since nothing else could be meant by it. -/
theorem findAsset?_of_sameButCase (valid : chain.validate = .ok ()) {s : String} {asset : Asset}
    (member : asset ∈ chain.allAssets) (same : SameButCase asset.symbol s) :
    chain.findAsset? s = some asset := by
  cases found : chain.findAsset? s with
  | none => exact absurd same (findAsset?_eq_none.mp found asset member)
  | some other =>
    obtain ⟨member', same'⟩ := sameButCase_of_findAsset? found
    have symbols : lowercase other.symbol = lowercase asset.symbol :=
      (lowercase_congr same').trans (lowercase_congr same).symm
    rw [List.inj_on_of_nodup_map (nodup_of_validate valid) member' member symbols]

/-- A symbol in any case of its ASCII letters finds its own asset on a valid chain, and what is no
symbol of an asset finds none. No two assets answer to one symbol, wherever they stand. -/
theorem symbol_finds_its_asset (valid : chain.validate = .ok ()) :
    (∀ asset, asset = chain.defaultAsset ∨ asset ∈ chain.assets → ∀ s,
      SameButCase asset.symbol s → chain.findAsset? s = some asset) ∧
    (∀ s asset, chain.findAsset? s = some asset →
      (asset = chain.defaultAsset ∨ asset ∈ chain.assets) ∧ SameButCase asset.symbol s) ∧
    (∀ s, chain.findAsset? s = none ↔ ¬SameButCase chain.defaultAsset.symbol s ∧
      ∀ asset ∈ chain.assets, ¬SameButCase asset.symbol s) ∧
    (chain.defaultAsset :: chain.assets).Pairwise fun asset other =>
      ∀ s, ¬(SameButCase asset.symbol s ∧ SameButCase other.symbol s) := by
  refine ⟨?_, ?_, ?_, ?_⟩
  · intro asset member s same
    exact findAsset?_of_sameButCase valid (List.mem_cons.mpr member) same
  · intro s asset found
    obtain ⟨member, same⟩ := sameButCase_of_findAsset? found
    exact ⟨List.mem_cons.mp member, same⟩
  · intro s
    rw [findAsset?_eq_none]
    exact List.forall_mem_cons
  · have differ := List.pairwise_map.mp (nodup_of_validate valid)
    refine differ.imp ?_
    rintro asset other unequal s ⟨same, same'⟩
    exact unequal ((lowercase_congr same).trans (lowercase_congr same').symm)

namespace Sample

def capital : Asset := ⟨"xcΣ", 12, .siblingParachain 2001, false⟩

/-- An asset whose symbol ends in the small sigma that is not the final one. -/
def small : Asset := ⟨"xcσ", 12, .siblingParachain 2002, false⟩

def greek : Chain := { moonbase with assets := [capital, small] }

end Sample

/-- Two symbols whose sigmas are not the same in lower case, the first of them being final. -/
theorem symbol_finds_its_asset_sigma :
    Sample.greek.validate = .ok () ∧ Sample.greek.findAsset? "XCΣ" = some Sample.capital ∧
      Sample.greek.findAsset? "Xcσ" = some Sample.small ∧ Sample.greek.findAsset? "xcς" = none := by
  have valid : Sample.greek.validate = .ok () := by decide +kernel
  obtain ⟨found, -, missing, -⟩ := symbol_finds_its_asset valid
  have first : SameButCase Sample.capital.symbol "XCΣ" := eqIgnoringCase_iff.mp (by decide)
  have second : SameButCase Sample.small.symbol "Xcσ" := eqIgnoringCase_iff.mp (by decide)
  refine ⟨valid, found _ (.inr (by decide)) _ first, found _ (.inr (by decide)) _ second, ?_⟩
  rw [missing]
  simp only [← eqIgnoringCase_iff]
  decide

end XcmTasks.Chain
