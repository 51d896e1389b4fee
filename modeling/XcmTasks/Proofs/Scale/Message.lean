import XcmTasks.Adapter.Registration
import XcmTasks.Proofs.Scale.Wire

/-! The codecs of messages and of the calls that register tasks are canonical. -/

namespace XcmTasks

open Decoder Canonical

instance : Canonical AssetId where
  reads := by
    refine Reads.tagged reads 0 rfl (fun t ht => ?_) (fun ⟨l⟩ => ⟨l, rfl⟩) (fun _ => rfl)
      fun _ => Iff.rfl
    split
    · exact absurd rfl ht
    · rfl

instance : Canonical Fungibility where
  reads := by
    refine Reads.tagged Compact.reads_decode128 0 rfl (fun t ht => ?_) (fun ⟨a⟩ => ⟨a, rfl⟩)
      (fun _ => rfl) fun _ => Iff.rfl
    split
    · exact absurd rfl ht
    · rfl

instance : Canonical MultiAsset where
  reads := (Reads.both reads reads (fun _ _ => rfl) (fun _ _ => rfl) fun _ => rfl).of_iff
    fun _ => ⟨fun _ => trivial, fun _ => ⟨trivial, trivial⟩⟩

instance : Canonical VersionedMultiAsset where
  reads := by
    refine Reads.tagged reads 3 rfl (fun t ht => ?_) (fun ⟨a⟩ => ⟨a, rfl⟩) (fun _ => rfl)
      fun _ => Iff.rfl
    split
    · exact absurd rfl ht
    · rfl

instance : Canonical VersionedMultiAssets where
  Fits | .v3 assets => Fits assets
  reads := by
    refine Reads.tagged reads 3 rfl (fun t ht => ?_) (fun ⟨a⟩ => ⟨a, rfl⟩) (fun _ => rfl)
      fun _ => Iff.rfl
    split
    · exact absurd rfl ht
    · rfl

instance : Canonical WeightLimit where
  reads bytes limit rest := by
    unfold instScaleWeightLimit
    simp only [bind_eq_some, byte_eq_some, true_and]
    refine ⟨?_, ?_⟩
    · rintro ⟨tag, mid, rfl, h⟩
      split at h
      case h_1 =>
        obtain ⟨rfl, rfl⟩ := pure_eq_some.mp h
        rfl
      case h_2 =>
        obtain ⟨weight, -, rfl, rfl⟩ := reads.field_iff.mp h
        rfl
      case h_3 => exact (fail_eq_some.mp h).elim
    · rintro rfl
      cases limit with
      | unlimited => exact ⟨0, rest, rfl, pure_eq_some.mpr ⟨rfl, rfl⟩⟩
      | limited weight => exact ⟨1, _, rfl, reads.field_iff.mpr ⟨weight, trivial, rfl, rfl⟩⟩

instance : Canonical OriginKind where
  reads bytes kind rest := by
    unfold instScaleOriginKind
    simp only [bind_eq_some, byte_eq_some, true_and]
    refine ⟨?_, ?_⟩
    · rintro ⟨tag, mid, rfl, h⟩
      split at h
      case h_1 | h_2 | h_3 | h_4 =>
        obtain ⟨rfl, rfl⟩ := pure_eq_some.mp h
        rfl
      case h_5 => exact (fail_eq_some.mp h).elim
    · rintro rfl
      cases kind with
      | native => exact ⟨0, rest, rfl, pure_eq_some.mpr ⟨rfl, rfl⟩⟩
      | sovereignAccount => exact ⟨1, rest, rfl, pure_eq_some.mpr ⟨rfl, rfl⟩⟩
      | superuser => exact ⟨2, rest, rfl, pure_eq_some.mpr ⟨rfl, rfl⟩⟩
      | xcm => exact ⟨3, rest, rfl, pure_eq_some.mpr ⟨rfl, rfl⟩⟩

instance : Canonical WildMultiAsset where
  reads bytes assets rest := by
    unfold instScaleWildMultiAsset
    simp only [bind_eq_some, byte_eq_some, true_and]
    refine ⟨?_, ?_⟩
    · rintro ⟨tag, mid, rfl, h⟩
      split at h
      case h_1 =>
        obtain ⟨rfl, rfl⟩ := pure_eq_some.mp h
        rfl
      case h_2 =>
        obtain ⟨count, -, rfl, rfl⟩ := Compact.reads_decode32.field_iff.mp h
        rfl
      case h_3 => exact (fail_eq_some.mp h).elim
    · rintro rfl
      cases assets with
      | all => exact ⟨0, rest, rfl, pure_eq_some.mpr ⟨rfl, rfl⟩⟩
      | allCounted count =>
        exact ⟨2, _, rfl, Compact.reads_decode32.field_iff.mpr ⟨count, trivial, rfl, rfl⟩⟩

instance : Canonical MultiAssetFilter where
  Fits
    | .definite assets => Fits assets
    | .wild _ => True
  reads bytes filter rest := by
    unfold instScaleMultiAssetFilter
    simp only [bind_eq_some, byte_eq_some]
    refine ⟨?_, ?_⟩
    · rintro ⟨tag, mid, rfl, h⟩
      split at h
      case h_1 | h_2 =>
        obtain ⟨assets, ha, rfl, rfl⟩ := reads.field_iff.mp h
        exact ⟨ha, rfl⟩
      case h_3 => exact (fail_eq_some.mp h).elim
    · rintro ⟨hf, rfl⟩
      cases filter with
      | definite assets => exact ⟨0, _, rfl, reads.field_iff.mpr ⟨assets, hf, rfl, rfl⟩⟩
      | wild assets => exact ⟨1, _, rfl, reads.field_iff.mpr ⟨assets, trivial, rfl, rfl⟩⟩

instance : Canonical Instruction where
  Fits
    | .withdrawAsset assets => Fits assets
    | .transact _ _ call => Fits call
    | .descendOrigin _ => True
    | .depositAsset assets _ => Fits assets
    | .buyExecution _ _ => True
    | .refundSurplus => True
  reads bytes instruction rest := by
    unfold instScaleInstruction
    simp only [bind_eq_some, byte_eq_some]
    refine ⟨?_, ?_⟩
    · rintro ⟨tag, mid, rfl, h⟩
      split at h
      case h_1 | h_3 =>
        obtain ⟨part, hp, rfl, rfl⟩ := reads.field_iff.mp h
        exact ⟨hp, rfl⟩
      case h_2 =>
        obtain ⟨kind, _, hk, hr⟩ := bind_eq_some.mp h
        obtain ⟨-, rfl⟩ := decode_eq_some_iff.mp hk
        obtain ⟨weight, call, ⟨-, hc⟩, rfl, rfl⟩ := (reads.fields_iff reads).mp hr
        exact ⟨hc, by simp [encode]⟩
      case h_4 =>
        obtain ⟨assets, beneficiary, ⟨ha, -⟩, rfl, rfl⟩ := (reads.fields_iff reads).mp h
        exact ⟨ha, by simp [encode]⟩
      case h_5 =>
        obtain ⟨fees, limit, -, rfl, rfl⟩ := (reads.fields_iff reads).mp h
        exact ⟨trivial, by simp [encode]⟩
      case h_6 =>
        obtain ⟨rfl, rfl⟩ := pure_eq_some.mp h
        exact ⟨trivial, rfl⟩
      case h_7 => exact (fail_eq_some.mp h).elim
    · rintro ⟨hf, rfl⟩
      cases instruction with
      | withdrawAsset assets => exact ⟨0, _, rfl, reads.field_iff.mpr ⟨assets, hf, rfl, rfl⟩⟩
      | transact kind weight call =>
        refine ⟨6, encode kind ++ (encode weight ++ (encode call ++ rest)), by simp [encode], ?_⟩
        refine bind_eq_some.mpr ⟨kind, _, decode_encode trivial _, ?_⟩
        exact (reads.fields_iff reads).mpr ⟨weight, call, ⟨trivial, hf⟩, rfl, rfl⟩
      | descendOrigin path => exact ⟨11, _, rfl, reads.field_iff.mpr ⟨path, trivial, rfl, rfl⟩⟩
      | depositAsset assets beneficiary =>
        refine ⟨13, encode assets ++ (encode beneficiary ++ rest), by simp [encode], ?_⟩
        exact (reads.fields_iff reads).mpr ⟨assets, beneficiary, ⟨hf, trivial⟩, rfl, rfl⟩
      | buyExecution fees limit =>
        refine ⟨19, encode fees ++ (encode limit ++ rest), by simp [encode], ?_⟩
        exact (reads.fields_iff reads).mpr ⟨fees, limit, ⟨trivial, trivial⟩, rfl, rfl⟩
      | refundSurplus => exact ⟨20, rest, rfl, pure_eq_some.mpr ⟨rfl, rfl⟩⟩

instance : Canonical VersionedXcm where
  Fits | .v3 program => Fits program
  reads := by
    refine Reads.tagged reads 3 rfl (fun t ht => ?_) (fun ⟨p⟩ => ⟨p, rfl⟩) (fun _ => rfl)
      fun _ => Iff.rfl
    split
    · exact absurd rfl ht
    · rfl

/-! ### Registrations -/

instance : Canonical Currency where
  reads := by
    refine Reads.tagged reads 1 rfl (fun t ht => ?_) (fun ⟨l⟩ => ⟨l, rfl⟩) (fun _ => rfl)
      fun _ => Iff.rfl
    split
    · exact absurd rfl ht
    · rfl

instance : Canonical CurrencyPayment where
  reads := (Reads.both reads reads (fun _ _ => rfl) (fun _ _ => rfl) fun _ => rfl).of_iff
    fun _ => ⟨fun _ => trivial, fun _ => ⟨trivial, fun _ _ => trivial⟩⟩

instance : Canonical TransactWeights where
  reads := (Reads.both reads reads (fun _ _ => rfl) (fun _ _ => rfl) fun _ => rfl).of_iff
    fun _ => ⟨fun _ => trivial, fun _ => ⟨trivial, fun _ _ => trivial⟩⟩

end XcmTasks
