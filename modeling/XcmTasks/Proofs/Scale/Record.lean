import XcmTasks.Adapter.AssetRecord
import XcmTasks.Proofs.Scale.Wire

/-! The codecs of what asset registries keep are canonical. -/

namespace XcmTasks

open Decoder Canonical

instance : Canonical AssetType where
  reads := by
    refine Reads.tagged reads 0 rfl (fun t ht => ?_) (fun ⟨l⟩ => ⟨l, rfl⟩) (fun _ => rfl)
      fun _ => Iff.rfl
    split
    · exact absurd rfl ht
    · rfl

instance : Canonical XcmFee where
  reads := Reads.map (g := XcmFee.feePerSecond) reads (fun _ _ => ⟨trivial, rfl⟩)
    fun _ _ => ⟨trivial, rfl⟩

instance : Canonical TradingRules where
  reads := Reads.map (g := TradingRules.operationsDisabled) reads (fun _ _ => ⟨trivial, rfl⟩)
    fun _ _ => ⟨trivial, rfl⟩

instance : Canonical OakAddition where
  reads := (Reads.both reads reads (fun _ _ => rfl) (fun _ _ => rfl) fun _ => rfl).of_iff
    fun _ => ⟨fun _ => trivial, fun _ => ⟨fun _ _ => trivial, fun _ _ => trivial⟩⟩

instance : Canonical MangataAddition where
  reads := (Reads.both reads reads (fun _ _ => rfl) (fun _ _ => rfl) fun _ => rfl).of_iff
    fun _ => ⟨fun _ => trivial, fun _ => ⟨fun _ _ => trivial, fun _ _ => trivial⟩⟩

instance {α : Type} [Scale α] [Canonical α] : Canonical (AssetRecord α) where
  Fits r := (Fits r.name ∧ Fits r.symbol) ∧ Fits r.additional
  reads bytes r rest := by
    unfold instScaleAssetRecord
    simp only [bind_eq_some, decode_eq_some_iff, pure_eq_some]
    refine ⟨?_, ?_⟩
    · rintro ⟨decimals, _, ⟨-, rfl⟩, name, _, ⟨hn, rfl⟩, symbol, _, ⟨hs, rfl⟩, deposit, _, ⟨-, rfl⟩,
        location, _, ⟨-, rfl⟩, additional, _, ⟨ha, rfl⟩, rfl, rfl⟩
      exact ⟨⟨⟨hn, hs⟩, ha⟩, by simp only [List.append_assoc]⟩
    · rintro ⟨⟨⟨hn, hs⟩, ha⟩, rfl⟩
      refine ⟨r.decimals, _, ⟨trivial, ?_⟩, r.name, _, ⟨hn, rfl⟩, r.symbol, _, ⟨hs, rfl⟩,
        r.existentialDeposit, _, ⟨trivial, rfl⟩, r.location, _, ⟨fun _ _ => trivial, rfl⟩,
        r.additional, _, ⟨ha, rfl⟩, rfl, rfl⟩
      simp only [List.append_assoc]

end XcmTasks
