import XcmTasks.Derivation
import XcmTasks.Proofs.Scale.Compact

/-!
Derivative accounts belong to one account of one parachain. A description of the two can be read in
one way only, whatever label it begins with: the number of the parachain ends by itself, and the
kinds of accounts have names and widths of their own. So two of them share a derivative account only
where the digests of two descriptions agree.
-/

namespace XcmTasks

open Canonical

namespace Derivation

variable {account account' : AccountId} {p p' : UInt32}

theorem length_accountPart (account : AccountId) :
    (accountPart account).length =
      match account with
      | .id32 _ => 43
      | .key20 _ => 32 := by
  cases account with
  | id32 id =>
    have width := id.length_toList
    have name : (utf8 "AccountId32").length = 11 := by decide
    simp [accountPart, width, name]
  | key20 key =>
    have width := key.length_toList
    have name : (utf8 "AccountKey20").length = 12 := by decide
    simp [accountPart, width, name]

theorem accountPart_injective : Function.Injective accountPart := by
  intro account account' h
  have lengths := congrArg List.length h
  simp only [length_accountPart] at lengths
  cases account with
  | id32 id =>
    cases account' with
    | id32 id' => exact congrArg _ (FixedBytes.ext (List.append_cancel_left h))
    | key20 key' => simp at lengths
  | key20 key =>
    cases account' with
    | id32 id' => simp at lengths
    | key20 key' => exact congrArg _ (FixedBytes.ext (List.append_cancel_left h))

theorem fits_accountPart (account : AccountId) : Fits (accountPart account) := by
  have lengths := length_accountPart account
  refine ⟨?_, fun _ _ => trivial⟩
  cases account <;> simp_all

/-- A description can be told from what it describes alone. -/
theorem description_inj (d : Derivation) :
    d.description account p = d.description account' p' ↔ account = account' ∧ p = p' := by
  constructor
  · intro h
    simp only [description, List.append_assoc] at h
    have unlabelled := List.append_cancel_left h
    obtain ⟨sameId, rest⟩ := Compact.reads_decode32.append_inj trivial trivial unlabelled
    have samePart := encode_inj (fits_accountPart _) (fits_accountPart _) rest
    exact ⟨accountPart_injective samePart, sameId⟩
  · rintro ⟨rfl, rfl⟩
    rfl

def digest (d : Derivation) (account : AccountId) (paraId : UInt32) : FixedBytes 32 :=
  d.hasher.hash (d.description account paraId)

theorem toList_fit {n : Nat} {bytes : Bytes} (h : n ≤ bytes.length) :
    (FixedBytes.fit n bytes).toList = bytes.take n := List.take_append_of_le_length h

theorem derive_id32 (d : Derivation) (account : AccountId) (p : UInt32) :
    d.derive account p .id32 = .id32 (d.digest account p) := by
  have width := (d.digest account p).length_toList
  have whole : FixedBytes.fit 32 (d.digest account p).toList = d.digest account p := by
    apply FixedBytes.ext
    rw [toList_fit (Nat.le_of_eq width.symm)]
    exact List.take_of_length_le (Nat.le_of_eq width)
  exact congrArg AccountId.id32 whole

theorem bytes_derive_key20 (d : Derivation) (account : AccountId) (p : UInt32) :
    (d.derive account p .key20).bytes = (d.digest account p).toList.take 20 := by
  have width := (d.digest account p).length_toList
  have narrow : 20 ≤ (d.digest account p).toList.length := by omega
  exact toList_fit narrow

theorem derive_key20_eq_iff (d : Derivation) :
    d.derive account p .key20 = d.derive account' p' .key20 ↔
      (d.digest account p).toList.take 20 = (d.digest account' p').toList.take 20 := by
  rw [← bytes_derive_key20, ← bytes_derive_key20]
  constructor
  · intro h
    rw [h]
  · intro h
    exact congrArg AccountId.key20 (FixedBytes.ext h)

/-- A description belongs to one account of one parachain. Two of them that differ have the same
derivative account only if the digests of two different descriptions agree, all over for a wide
account and in their first 20 bytes for a narrow one. -/
theorem description_determines (d : Derivation) (account account' : AccountId) (p p' : UInt32) :
    (d.description account p = d.description account' p' ↔ account = account' ∧ p = p') ∧
      (account ≠ account' ∨ p ≠ p' →
        d.description account p ≠ d.description account' p' ∧
          (d.derive account p .id32 = d.derive account' p' .id32 ↔
            d.hasher.hash (d.description account p) = d.hasher.hash (d.description account' p')) ∧
          (d.derive account p .key20 = d.derive account' p' .key20 ↔
            (d.hasher.hash (d.description account p)).toList.take 20 =
              (d.hasher.hash (d.description account' p')).toList.take 20)) := by
  refine ⟨d.description_inj, ?_⟩
  intro different
  refine ⟨?_, ?_, d.derive_key20_eq_iff⟩
  · rw [Ne, description_inj]
    rintro ⟨rfl, rfl⟩
    simp at different
  · rw [derive_id32, derive_id32, AccountId.id32.injEq]
    rfl

/-- One account on two parachains whose numbers take one byte and two, and an account of each
width. -/
theorem description_determines_widths :
    (default : Derivation).description (.id32 .zero) 63 ≠
        (default : Derivation).description (.id32 .zero) 64 ∧
      (default : Derivation).description (.id32 .zero) 2000 ≠
        (default : Derivation).description (.key20 .zero) 2000 := by
  have numbers := (description_determines default (.id32 .zero) (.id32 .zero) 63 64).2
  have accounts := (description_determines default (.id32 .zero) (.key20 .zero) 2000 2000).2
  exact ⟨(numbers (.inr (by decide))).1, (accounts (.inl (by decide))).1⟩

end Derivation

end XcmTasks
