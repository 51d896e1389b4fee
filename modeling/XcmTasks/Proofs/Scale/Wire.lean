import XcmTasks.Proofs.Scale.Compact
import XcmTasks.Schedule
import XcmTasks.Weight

/-! The codecs of locations, weights, schedules and payments are canonical. -/

namespace XcmTasks

open Decoder Canonical

instance : Canonical NetworkId where
  reads bytes network rest := by
    unfold instScaleNetworkId
    simp only [bind_eq_some, byte_eq_some, true_and]
    refine ⟨?_, ?_⟩
    · rintro ⟨tag, mid, rfl, h⟩
      split at h
      case h_1 =>
        obtain ⟨hash, -, rfl, rfl⟩ := reads.field_iff.mp h
        rfl
      case h_2 =>
        obtain ⟨number, hash, -, rfl, rfl⟩ := (reads.fields_iff reads).mp h
        simp [encode]
      case h_8 =>
        obtain ⟨chainId, -, rfl, rfl⟩ := Compact.reads_decode64.field_iff.mp h
        rfl
      case h_3 | h_4 | h_5 | h_6 | h_7 | h_9 | h_10 =>
        obtain ⟨rfl, rfl⟩ := pure_eq_some.mp h
        rfl
      case h_11 => exact (fail_eq_some.mp h).elim
    · rintro rfl
      cases network with
      | byGenesis hash => exact ⟨0, _, rfl, reads.field_iff.mpr ⟨hash, trivial, rfl, rfl⟩⟩
      | byFork number hash =>
        refine ⟨1, encode number ++ (encode hash ++ rest), by simp [encode], ?_⟩
        exact (reads.fields_iff reads).mpr ⟨number, hash, ⟨trivial, trivial⟩, rfl, rfl⟩
      | ethereum chainId =>
        exact ⟨7, _, rfl, Compact.reads_decode64.field_iff.mpr ⟨chainId, trivial, rfl, rfl⟩⟩
      | polkadot => exact ⟨2, rest, rfl, pure_eq_some.mpr ⟨rfl, rfl⟩⟩
      | kusama => exact ⟨3, rest, rfl, pure_eq_some.mpr ⟨rfl, rfl⟩⟩
      | westend => exact ⟨4, rest, rfl, pure_eq_some.mpr ⟨rfl, rfl⟩⟩
      | rococo => exact ⟨5, rest, rfl, pure_eq_some.mpr ⟨rfl, rfl⟩⟩
      | wococo => exact ⟨6, rest, rfl, pure_eq_some.mpr ⟨rfl, rfl⟩⟩
      | bitcoinCore => exact ⟨8, rest, rfl, pure_eq_some.mpr ⟨rfl, rfl⟩⟩
      | bitcoinCash => exact ⟨9, rest, rfl, pure_eq_some.mpr ⟨rfl, rfl⟩⟩

instance : Canonical GeneralKey where
  reads := (Reads.both reads reads (fun _ _ => rfl) (fun _ _ => rfl) fun _ => rfl).of_iff
    fun _ => ⟨fun _ => trivial, fun _ => ⟨trivial, trivial⟩⟩

instance : Canonical Junction where
  reads bytes junction rest := by
    unfold instScaleJunction
    simp only [bind_eq_some, byte_eq_some, true_and]
    refine ⟨?_, ?_⟩
    · rintro ⟨tag, mid, rfl, h⟩
      split at h
      case h_1 =>
        obtain ⟨id, -, rfl, rfl⟩ := Compact.reads_decode32.field_iff.mp h
        rfl
      case h_2 | h_4 =>
        obtain ⟨network, id, -, rfl, rfl⟩ := (reads.fields_iff reads).mp h
        simp [encode]
      case h_3 =>
        obtain ⟨network, index, -, rfl, rfl⟩ :=
          (reads.fields_iff Compact.reads_decode64).mp h
        simp [encode]
      case h_6 =>
        obtain ⟨index, -, rfl, rfl⟩ := Compact.reads_decode128.field_iff.mp h
        rfl
      case h_5 | h_7 | h_9 =>
        obtain ⟨part, -, rfl, rfl⟩ := reads.field_iff.mp h
        rfl
      case h_8 =>
        obtain ⟨rfl, rfl⟩ := pure_eq_some.mp h
        rfl
      case h_10 => exact (fail_eq_some.mp h).elim
    · rintro rfl
      cases junction with
      | parachain id =>
        exact ⟨0, _, rfl, Compact.reads_decode32.field_iff.mpr ⟨id, trivial, rfl, rfl⟩⟩
      | accountId32 network id =>
        refine ⟨1, encode network ++ (encode id ++ rest), by simp [encode], ?_⟩
        exact (reads.fields_iff reads).mpr
          ⟨network, id, ⟨fun _ _ => trivial, trivial⟩, rfl, rfl⟩
      | accountIndex64 network index =>
        refine ⟨2, encode network ++ (Compact.encode64 index ++ rest), by simp [encode], ?_⟩
        exact (reads.fields_iff Compact.reads_decode64).mpr
          ⟨network, index, ⟨fun _ _ => trivial, trivial⟩, rfl, rfl⟩
      | accountKey20 network key =>
        refine ⟨3, encode network ++ (encode key ++ rest), by simp [encode], ?_⟩
        exact (reads.fields_iff reads).mpr
          ⟨network, key, ⟨fun _ _ => trivial, trivial⟩, rfl, rfl⟩
      | palletInstance index =>
        exact ⟨4, _, rfl, reads.field_iff.mpr ⟨index, trivial, rfl, rfl⟩⟩
      | generalIndex index =>
        exact ⟨5, _, rfl, Compact.reads_decode128.field_iff.mpr ⟨index, trivial, rfl, rfl⟩⟩
      | generalKey key => exact ⟨6, _, rfl, reads.field_iff.mpr ⟨key, trivial, rfl, rfl⟩⟩
      | onlyChild => exact ⟨7, rest, rfl, pure_eq_some.mpr ⟨rfl, rfl⟩⟩
      | globalConsensus network =>
        exact ⟨9, _, rfl, reads.field_iff.mpr ⟨network, trivial, rfl, rfl⟩⟩

/-- The length of a path fits into the byte before its junctions. -/
theorem Junctions.toNat_length (path : Junctions) :
    (UInt8.ofNat path.length).toNat = path.toList.length := by
  have := path.length_le
  unfold maxJunctions at this
  exact Compact.toNat_ofNat_byte (by unfold Junctions.length; omega)

instance : Canonical Junctions where
  reads bytes path rest := by
    unfold instScaleJunctions
    simp only [bind_eq_some, byte_eq_some, true_and]
    refine ⟨?_, ?_⟩
    · rintro ⟨count, mid, rfl, h⟩
      by_cases hc : count.toNat ≤ maxJunctions
      · rw [if_pos hc] at h
        simp only [bind_eq_some, (reads_times reads _).iff] at h
        obtain ⟨as, _, ⟨⟨hn, -⟩, rfl⟩, h⟩ := h
        have short : Junctions.ofList as = .ok ⟨as, hn ▸ hc⟩ := dif_pos (hn ▸ hc)
        simp only [short, pure_eq_some] at h
        obtain ⟨rfl, rfl⟩ := h
        have same : UInt8.ofNat as.length = count := by rw [hn, UInt8.ofNat_toNat]
        change _ = UInt8.ofNat as.length :: _
        rw [same]
        rfl
      · rw [if_neg hc] at h
        exact (fail_eq_some.mp h).elim
    · rintro rfl
      have hl := path.toNat_length
      refine ⟨_, _, rfl, ?_⟩
      rw [if_pos (Nat.le_trans (Nat.le_of_eq hl) path.length_le)]
      simp only [bind_eq_some, (reads_times reads _).iff]
      refine ⟨path.toList, rest, ⟨⟨hl.symm, fun _ _ => trivial⟩, rfl⟩, ?_⟩
      have short : Junctions.ofList path.toList = .ok path := dif_pos path.length_le
      simp only [short]
      exact pure_eq_some.mpr ⟨rfl, rfl⟩

instance : Canonical Location where
  reads := (Reads.both reads reads (fun _ _ => rfl) (fun _ _ => rfl) fun _ => rfl).of_iff
    fun _ => ⟨fun _ => trivial, fun _ => ⟨trivial, trivial⟩⟩

instance : Canonical VersionedLocation where
  reads := by
    refine Reads.tagged reads 3 rfl (fun t ht => ?_) (fun ⟨l⟩ => ⟨l, rfl⟩) (fun _ => rfl)
      fun _ => Iff.rfl
    split
    · exact absurd rfl ht
    · rfl

instance : Canonical Weight where
  reads := (Reads.both Compact.reads_decode64 Compact.reads_decode64 (fun _ _ => rfl)
    (fun _ _ => rfl) fun _ => rfl).of_iff
    fun _ => ⟨fun _ => trivial, fun _ => ⟨trivial, trivial⟩⟩

instance : Canonical Schedule where
  Fits
    | .fixed times => Fits times
    | .recurring _ _ => True
  reads bytes schedule rest := by
    unfold instScaleSchedule
    simp only [bind_eq_some, byte_eq_some]
    refine ⟨?_, ?_⟩
    · rintro ⟨tag, mid, rfl, h⟩
      split at h
      case h_1 =>
        obtain ⟨times, ht, rfl, rfl⟩ := reads.field_iff.mp h
        exact ⟨ht, rfl⟩
      case h_2 =>
        obtain ⟨next, frequency, -, rfl, rfl⟩ := (reads.fields_iff reads).mp h
        exact ⟨trivial, by simp [encode]⟩
      case h_3 => exact (fail_eq_some.mp h).elim
    · rintro ⟨hf, rfl⟩
      cases schedule with
      | fixed times => exact ⟨0, _, rfl, reads.field_iff.mpr ⟨times, hf, rfl, rfl⟩⟩
      | recurring next frequency =>
        refine ⟨1, encode next ++ (encode frequency ++ rest), by simp [encode], ?_⟩
        exact (reads.fields_iff reads).mpr ⟨next, frequency, ⟨trivial, trivial⟩, rfl, rfl⟩

instance : Canonical AssetPayment where
  reads := (Reads.both reads reads (fun _ _ => rfl) (fun _ _ => rfl) fun _ => rfl).of_iff
    fun _ => ⟨fun _ => trivial, fun _ => ⟨trivial, trivial⟩⟩

instance : Canonical Flow where
  reads bytes flow rest := by
    unfold instScaleFlow
    simp only [bind_eq_some, byte_eq_some, true_and]
    refine ⟨?_, ?_⟩
    · rintro ⟨tag, mid, rfl, h⟩
      split at h
      case h_1 | h_2 =>
        obtain ⟨rfl, rfl⟩ := pure_eq_some.mp h
        rfl
      case h_3 => exact (fail_eq_some.mp h).elim
    · rintro rfl
      cases flow with
      | sovereign => exact ⟨0, rest, rfl, pure_eq_some.mpr ⟨rfl, rfl⟩⟩
      | derivative => exact ⟨1, rest, rfl, pure_eq_some.mpr ⟨rfl, rfl⟩⟩

end XcmTasks
