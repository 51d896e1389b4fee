import Mathlib.Logic.Function.Basic
import XcmTasks.StorageKey

/-!
Storage keys that keep apart what they are made from. A hasher that leaves the key of an entry
behind its digest gives different entries different keys, whatever the digests are.
-/

namespace XcmTasks

open Function Hash

/-! ### Lengths of digests -/

theorem Hash.length_wordBytes (x : UInt64) : (wordBytes x).length = 8 := length_littleEndian 8 _

theorem Hash.XxHash.length_concatenated (n : Nat) (data : Bytes) :
    (concatenated n data).length = n * 8 := by
  unfold concatenated
  rw [List.length_flatMap]
  simp only [length_wordBytes, List.map_const', List.length_range, List.sum_replicate_nat]

/-! ### Entries -/

/-- A digest of one length can be taken off again. -/
theorem injective_digest_append {digest : Bytes → Bytes} {n : Nat}
    (hn : ∀ data, (digest data).length = n) : Injective fun data => digest data ++ data := by
  intro data data' h
  exact List.append_inj_right h ((hn data).trans (hn data').symm)

/-- The hasher leaves what it hashes at the end of what it gives. -/
def StorageHasher.keeps : StorageHasher → Bool
  | .blake2x128Concat | .twox64Concat | .identity => true
  | .blake2x128 | .blake2x256 | .twox128 | .twox256 => false

theorem StorageHasher.hash_injective {hasher : StorageHasher} (h : hasher.keeps = true) :
    Injective hasher.hash := by
  cases hasher with
  | blake2x128Concat => exact injective_digest_append fun data => (Blake2b.digest 16 data).2
  | twox64Concat => exact injective_digest_append (XxHash.length_concatenated 1)
  | identity => exact injective_id
  | blake2x128 => cases h
  | blake2x256 => cases h
  | twox128 => cases h
  | twox256 => cases h

/-- The entries of a map have different keys, if its hasher keeps what it hashes. -/
theorem StorageKey.entry_injective (pallet item : String) {hasher : StorageHasher}
    (h : hasher.keeps = true) : Injective (entry pallet item hasher) := by
  intro key key' heq
  have behind := List.append_cancel_left (congrArg StorageKey.bytes heq)
  exact StorageHasher.hash_injective h behind

end XcmTasks
