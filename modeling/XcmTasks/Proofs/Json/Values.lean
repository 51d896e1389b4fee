import XcmTasks.Chain.Basic
import XcmTasks.Proofs.Hex
import XcmTasks.Proofs.Json.Members

/-!
The parts of chains, from numbers and byte strings up to whole chains. Each part that is read is
written as JSON that is read back as the same part.
-/

namespace XcmTasks

open Document
open Json (Plain)

variable {d : Nat} {manner : Manner} {document : Document}

/-! ### Plain values -/

theorem natural_back {α : Type} {limit n : Nat} {f : Nat → α} {a : α} (h : n ≤ limit)
    (hf : f n = a) : f <$> natural limit .exact (Json.ofNat n).tree = .ok a := by
  have back : natural limit .exact (.number (Nat.toDigits 10 n)) = .ok n := by
    simp [natural, plainNatural?_toDigits, h]
  change f <$> natural limit .exact (.number (Nat.toDigits 10 n)) = .ok a
  rw [back, ← hf]
  rfl

instance : Settled Bool d := settled_of_steady fun b => ⟨.bool b, rfl⟩

instance : Settled String d := settled_of_steady fun s => ⟨.text s, rfl⟩

theorem steady_byte (n : UInt8) : Steady d n :=
  ⟨.natural n.toNat, natural_back (Nat.le_sub_one_of_lt n.toNat_lt_size) UInt8.ofNat_toNat⟩

instance : Settled UInt8 d := settled_of_steady steady_byte

theorem steady_word32 (n : UInt32) : Steady d n :=
  ⟨.natural n.toNat, natural_back (Nat.le_sub_one_of_lt n.toNat_lt_size) UInt32.ofNat_toNat⟩

instance : Settled UInt32 d := settled_of_steady steady_word32

theorem steady_word64 (n : UInt64) : Steady d n :=
  ⟨.natural n.toNat, natural_back (Nat.le_sub_one_of_lt n.toNat_lt_size) UInt64.ofNat_toNat⟩

instance : Settled UInt64 d := settled_of_steady steady_word64

theorem steady_word128 (n : UInt128) : Steady d n :=
  ⟨.natural n.toNat, natural_back (Nat.le_sub_one_of_lt n.isLt) (by simp)⟩

instance : Settled (BitVec 128) d := settled_of_steady steady_word128

/-! ### Byte strings -/

theorem readHex_hexJson (bytes : Bytes) : readHex .exact (hexJson bytes).tree = .ok bytes := by
  have text : string .exact (hexJson bytes).tree = .ok (Hex.encode bytes) := rfl
  unfold readHex
  rw [text]
  dsimp only [bind, Except.bind]
  rw [Hex.decode_encode]
  rfl

theorem steady_fixedBytes {n : Nat} (bytes : FixedBytes n) : Steady d bytes := by
  refine ⟨.text _, ?_⟩
  change (readHex .exact (hexJson bytes.toList).tree >>= _) = _
  rw [readHex_hexJson]
  dsimp only [bind, Except.bind]
  rw [FixedBytes.ofList?_toList]
  rfl

instance {n : Nat} : Settled (FixedBytes n) d := settled_of_steady steady_fixedBytes

theorem GeneralKey.ofBytes?_eq_some {bytes : Bytes} {key : GeneralKey} :
    ofBytes? bytes = some key ↔
      bytes.length ≤ 32 ∧ key = ⟨UInt8.ofNat bytes.length, .fit 32 bytes⟩ := by
  unfold ofBytes?
  split
  case isTrue short => simp [short, eq_comm]
  case isFalse long => simp [long]

theorem GeneralKey.bytes_of_ofBytes? {bytes : Bytes} {key : GeneralKey}
    (h : ofBytes? bytes = some key) : key.bytes = bytes := by
  obtain ⟨short, rfl⟩ := ofBytes?_eq_some.mp h
  have count : (UInt8.ofNat bytes.length).toNat = bytes.length :=
    UInt8.toNat_ofNat_of_lt' (Nat.lt_of_le_of_lt short (by decide))
  unfold GeneralKey.bytes FixedBytes.fit
  rw [count, List.take_take, Nat.min_eq_left short, List.take_left]

theorem GeneralKey.read_hexJson {bytes : Bytes} {key : GeneralKey}
    (h : ofBytes? bytes = some key) : read .exact (hexJson bytes).tree = .ok key := by
  change (readHex .exact (hexJson bytes).tree >>= _) = _
  rw [readHex_hexJson]
  dsimp only [bind, Except.bind]
  rw [h]
  rfl

/-- Only the bytes that count are written, and the others are zeros in every key that is read. -/
instance : Settled GeneralKey d where
  settles := by
    intro manner document key h
    obtain ⟨bytes, -, h⟩ := bind_eq_ok h
    have made : GeneralKey.ofBytes? bytes = some key := by
      split at h
      case h_1 key' hk =>
        cases h
        exact hk
      case h_2 => cases h
    refine ⟨hexJson bytes, .text _, ?_, GeneralKey.read_hexJson made⟩
    change _ = hexJson key.bytes
    rw [GeneralKey.bytes_of_ofBytes? made]

/-! ### Locations -/

instance : Settled NetworkId (d + 2) where
  settles := by
    refine settles_variantOf (by decide) ?_
    simp only [List.forall_mem_cons]
    refine ⟨settles_map_read fun _ => rfl, ?_, rfl, rfl, rfl, rfl, rfl, ?_, rfl, rfl,
      List.forall_mem_nil _⟩
    · exact settles_recordOf (by decide) <|
        Members.settles_of (by intros; rfl) |>.required |>.required
    · exact settles_recordOf (by decide) <| Members.settles_of (by intros; rfl) |>.required

instance : Settled (Option NetworkId) (d + 2) := settled_option fun _ h => by cases h

instance : Settled Junction (d + 4) where
  settles := by
    refine settles_variantOf (by decide) ?_
    simp only [List.forall_mem_cons]
    refine ⟨settles_map_read fun _ => rfl, ?_, ?_, ?_, settles_map_read fun _ => rfl,
      settles_map_read fun _ => rfl, settles_map_read fun _ => rfl, rfl,
      settles_map_read fun _ => rfl, List.forall_mem_nil _⟩
    · exact settles_recordOf (by decide) <|
        Members.settles_of (by intros; rfl) |>.withDefault .null rfl |>.required
    · exact settles_recordOf (by decide) <|
        Members.settles_of (by intros; rfl) |>.withDefault .null rfl |>.required
    · exact settles_recordOf (by decide) <|
        Members.settles_of (by intros; rfl) |>.withDefault .null rfl |>.required

theorem steady_junctions {path : Junctions} (h : Steady d path.toList) : Steady d path := by
  refine ⟨h.plain, ?_⟩
  change (read .exact (toJson path.toList).tree >>= _) = _
  rw [h.back]
  dsimp only [bind, Except.bind]
  rw [Junctions.ofList, dif_pos path.length_le]
  rfl

instance : Settled Junctions (d + 5) where
  settles := by
    intro manner document path h
    obtain ⟨junctions, hj, h⟩ := bind_eq_ok h
    have read_path : read manner document = .ok path.toList := by
      split at h
      case h_1 path' hp =>
        cases h
        unfold Junctions.ofList at hp
        split at hp
        case isTrue =>
          cases hp
          exact hj
        case isFalse => cases hp
      case h_2 => cases h
    have steady : Steady (d + 5) path := steady_junctions (steady_of_read read_path)
    exact ⟨_, steady.plain, rfl, steady.back⟩

instance : Settled Location (d + 6) where
  settles := settles_recordOf (by decide) <|
    Members.settles_of (by intros; rfl) |>.required |>.withDefault (.list [] true) rfl

instance : Settled Asset (d + 7) where
  settles := settles_recordOf (by decide) <|
    Members.settles_of (by intros; rfl) |>.required |>.required |>.required
      |>.withDefault (.bool false) rfl

/-! ### Chains -/

instance : Settled AccountKind (d + 1) where
  settles := by
    refine settles_variantOf (by decide) ?_
    simp only [List.forall_mem_cons]
    exact ⟨rfl, rfl, List.forall_mem_nil _⟩

instance : Settled ChainFamily (d + 1) where
  settles := by
    refine settles_variantOf (by decide) ?_
    simp only [List.forall_mem_cons]
    exact ⟨rfl, rfl, rfl, rfl, List.forall_mem_nil _⟩

instance : Settled DerivationHasher (d + 1) where
  settles := by
    refine settles_variantOf (by decide) ?_
    simp only [List.forall_mem_cons]
    exact ⟨rfl, rfl, List.forall_mem_nil _⟩

instance : Settled Derivation (d + 2) where
  settles := settles_recordOf (by decide) <|
    Members.settles_of (by intros; rfl)
      |>.withDefault (.text (some Derivation.defaultLabel)) rfl
      |>.withDefault (.text (some "blake2_256")) rfl

instance : Settled (Option Derivation) (d + 2) := settled_option fun _ h => by cases h

instance : Settled (Option UInt32) d := settled_option fun _ h => by cases h

instance : Settled Weight (d + 1) where
  settles := settles_recordOf (by decide) <|
    Members.settles_of (by rintro _ refTime rfl _ proofSize rfl; rfl)
      |>.one Settled.settles (by simp) |>.one Settled.settles (by simp)

theorem steady_callIndex (index : CallIndex) : Steady (d + 1) index := by
  have pallet := steady_byte (d := d) index.pallet
  have call := steady_byte (d := d) index.call
  refine ⟨.list ?_, ?_⟩
  · simp only [List.forall_mem_cons]
    exact ⟨pallet.plain, call.plain, List.forall_mem_nil _⟩
  · change (read .exact (toJson index.pallet).tree >>= fun p =>
      read .exact (toJson index.call).tree >>= fun c => pure (CallIndex.mk p c) :
        Reading CallIndex) = _
    rw [pallet.back, call.back]
    rfl

instance : Settled CallIndex (d + 1) := settled_of_steady steady_callIndex

instance : Settled Chain (d + 9) where
  settles := settles_recordOf (by decide) <|
    Members.settles_of (by intros; rfl) |>.required |>.required |>.required |>.required
      |>.required |>.withDefault .null rfl |>.withDefault (.text (some "id32")) rfl |>.required
      |>.withDefault (.list [] true) rfl |>.required |>.withDefault .null rfl
      |>.withDefault (.object [] true) rfl

end XcmTasks
