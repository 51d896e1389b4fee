import XcmTasks.Proofs.Scale.Basic
import XcmTasks.Scale.Compact

/-!
Compact numbers are canonical: a number has one form for each decoder that is wide enough for it.
The three short forms keep the low six bits of the number in the first byte, the long form keeps
there how many bytes follow.
-/

namespace XcmTasks

open Decoder

namespace Compact

variable {bytes rest : Bytes} {n : Nat}

theorem canonical_eq_some {lower m : Nat} :
    canonical lower m bytes = some (n, rest) ↔ (lower ≤ m ∧ m = n) ∧ bytes = rest := by
  unfold canonical
  by_cases h : lower ≤ m
  · rw [if_pos h, pure_eq_some]
    simp [h]
  · rw [if_neg h, fail_eq_some]
    simp [h]

theorem byteCount_eq_iff {k : Nat} (hn : n ≠ 0) :
    byteCount n = k + 1 ↔ Nat.pow 256 k ≤ n ∧ n < Nat.pow 256 (k + 1) := by
  have radix (i : Nat) : Nat.pow 256 i = Nat.pow 2 (8 * i) := by
    rw [Nat.pow_eq, Nat.pow_eq, Nat.pow_mul]
  rw [radix, radix, Nat.pow_eq, Nat.pow_eq, ← Nat.le_log2 hn, ← Nat.log2_lt hn, byteCount]
  omega

theorem toNat_ofNat_byte {m : Nat} (h : m < 256) : (UInt8.ofNat m).toNat = m := by
  rw [UInt8.toNat_ofNat']
  exact Nat.mod_eq_of_lt h

theorem littleEndian_short {mode : Nat} (hm : mode < 4) (k n : Nat) :
    littleEndian (k + 1) (4 * n + mode) =
      UInt8.ofNat (4 * (n % 64) + mode) :: littleEndian k (n / 64) := by
  have low : UInt8.ofNat (4 * n + mode) = UInt8.ofNat (4 * (n % 64) + mode) := by
    apply UInt8.toNat_inj.mp
    rw [UInt8.toNat_ofNat', UInt8.toNat_ofNat']
    omega
  have high : (4 * n + mode) / 256 = n / 64 := by omega
  rw [littleEndian, low, high]

/-- The first byte and the bytes behind it, form by form. -/
theorem encode_eq (n : Nat) :
    encode n =
      if n < 64 then [UInt8.ofNat (4 * (n % 64) + 0)]
      else if n < 16384 then UInt8.ofNat (4 * (n % 64) + 1) :: littleEndian 1 (n / 64)
      else if n < 1073741824 then UInt8.ofNat (4 * (n % 64) + 2) :: littleEndian 3 (n / 64)
      else UInt8.ofNat (4 * (byteCount n - 4) + 3) :: littleEndian (byteCount n) n := by
  unfold encode
  rw [← littleEndian_short (by decide), ← littleEndian_short (by decide),
    ← Nat.add_zero (4 * n), littleEndian_short (by decide), littleEndian]

theorem short_parts {b : UInt8} {mode hi : Nat} (hb : b.toNat % 4 = mode)
    (h : b.toNat / 4 + 64 * hi = n) :
    UInt8.ofNat (4 * (n % 64) + mode) = b ∧ n / 64 = hi := by
  have := b.toNat_lt
  refine ⟨UInt8.toNat_inj.mp ?_, by omega⟩
  rw [toNat_ofNat_byte (by omega)]
  omega

/-- A number that is read has been written in its only form. -/
theorem encode_of_decode {width : Nat} (hw : 4 ≤ width)
    (h : decode width bytes = some (n, rest)) : n < Nat.pow 256 width ∧ bytes = encode n ++ rest := by
  unfold decode at h
  simp only [bind_eq_some, byte_eq_some] at h
  obtain ⟨b, mid, rfl, h⟩ := h
  have wide : 4294967296 ≤ Nat.pow 256 width :=
    Nat.pow_le_pow_right (n := 256) (by decide) hw
  have := b.toNat_lt
  obtain hb | hb | hb | hb :
      b.toNat % 4 = 0 ∨ b.toNat % 4 = 1 ∨ b.toNat % 4 = 2 ∨ b.toNat % 4 = 3 := by omega
  · simp only [hb, pure_eq_some] at h
    obtain ⟨h, rfl⟩ := h
    obtain ⟨low, -⟩ := short_parts hb (show b.toNat / 4 + 64 * 0 = n from h)
    refine ⟨by omega, ?_⟩
    rw [encode_eq, if_pos (by omega), low]
    rfl
  · simp only [hb, bind_eq_some, (reads_natural 1).iff, canonical_eq_some] at h
    obtain ⟨hi, _, ⟨hhi, rfl⟩, ⟨hl, h⟩, rfl⟩ := h
    change hi < 256 at hhi
    obtain ⟨low, high⟩ := short_parts hb h
    refine ⟨by omega, ?_⟩
    rw [encode_eq, if_neg (by omega), if_pos (by omega), low, high]
    rfl
  · simp only [hb, bind_eq_some, (reads_natural 3).iff, canonical_eq_some] at h
    obtain ⟨hi, _, ⟨hhi, rfl⟩, ⟨hl, h⟩, rfl⟩ := h
    change hi < 16777216 at hhi
    obtain ⟨low, high⟩ := short_parts hb h
    refine ⟨by omega, ?_⟩
    rw [encode_eq, if_neg (by omega), if_neg (by omega), if_pos (by omega), low, high]
    rfl
  · simp only [hb] at h
    by_cases hs : b.toNat / 4 + 4 ≤ width
    · rw [if_pos hs] at h
      simp only [bind_eq_some, (reads_natural _).iff, canonical_eq_some] at h
      obtain ⟨m, _, ⟨hm, rfl⟩, ⟨hl, rfl⟩, rfl⟩ := h
      obtain ⟨hl, hl'⟩ := Nat.max_le.mp hl
      have count : byteCount m = b.toNat / 4 + 3 + 1 :=
        (byteCount_eq_iff (by omega)).mpr ⟨hl', hm⟩
      have first : UInt8.ofNat (4 * (byteCount m - 4) + 3) = b := by
        apply UInt8.toNat_inj.mp
        rw [count, toNat_ofNat_byte (by omega)]
        omega
      refine ⟨Nat.lt_of_lt_of_le hm (Nat.pow_le_pow_right (by decide) hs), ?_⟩
      rw [encode_eq, if_neg (by omega), if_neg (by omega), if_neg (by omega), first, count]
      rfl
    · rw [if_neg hs] at h
      exact (fail_eq_some.mp h).elim

theorem decode_encode {width : Nat} (hw : width ≤ 67) (hn : n < Nat.pow 256 width) (rest : Bytes) :
    decode width (encode n ++ rest) = some (n, rest) := by
  unfold decode
  simp only [bind_eq_some, byte_eq_some]
  obtain h | h | h | h : n < 64 ∨ (64 ≤ n ∧ n < 16384) ∨ (16384 ≤ n ∧ n < 1073741824) ∨
      1073741824 ≤ n := by omega
  · rw [encode_eq, if_pos h]
    refine ⟨_, _, rfl, ?_⟩
    have hb : (4 * (n % 64) + 0) % 4 = 0 := by omega
    rw [toNat_ofNat_byte (by omega)]
    simp only [hb]
    exact pure_eq_some.mpr ⟨by omega, rfl⟩
  · rw [encode_eq, if_neg (by omega), if_pos h.2]
    refine ⟨_, _, rfl, ?_⟩
    have hb : (4 * (n % 64) + 1) % 4 = 1 := by omega
    rw [toNat_ofNat_byte (by omega)]
    simp only [hb, bind_eq_some, (reads_natural 1).iff, canonical_eq_some]
    have hhi : n / 64 < 256 := by omega
    exact ⟨n / 64, rest, ⟨hhi, rfl⟩, ⟨by omega, by omega⟩, rfl⟩
  · rw [encode_eq, if_neg (by omega), if_neg (by omega), if_pos h.2]
    refine ⟨_, _, rfl, ?_⟩
    have hb : (4 * (n % 64) + 2) % 4 = 2 := by omega
    rw [toNat_ofNat_byte (by omega)]
    simp only [hb, bind_eq_some, (reads_natural 3).iff, canonical_eq_some]
    have hhi : n / 64 < 16777216 := by omega
    exact ⟨n / 64, rest, ⟨hhi, rfl⟩, ⟨by omega, by omega⟩, rfl⟩
  · obtain ⟨k, count⟩ : ∃ k, byteCount n = k + 1 := ⟨_, rfl⟩
    obtain ⟨low, high⟩ := (byteCount_eq_iff (by omega)).mp count
    have long : 16777216 < n := by omega
    have least : 3 < k + 1 :=
      (Nat.pow_lt_pow_iff_right (a := 256) (by decide)).mp (Nat.lt_trans long high)
    have most : k < width :=
      (Nat.pow_lt_pow_iff_right (a := 256) (by decide)).mp (Nat.lt_of_le_of_lt low hn)
    obtain ⟨j, rfl⟩ : ∃ j, k = j + 3 := ⟨k - 3, by omega⟩
    rw [encode_eq, if_neg (by omega), if_neg (by omega), if_neg (by omega), count]
    refine ⟨_, _, rfl, ?_⟩
    have hj : j + 3 + 1 - 4 = j := by omega
    have hb : (4 * j + 3) % 4 = 3 := by omega
    have hs : (4 * j + 3) / 4 = j := by omega
    rw [hj, toNat_ofNat_byte (by omega)]
    simp only [hb, hs]
    rw [if_pos (by omega)]
    simp only [bind_eq_some, (reads_natural _).iff, canonical_eq_some]
    exact ⟨n, rest, ⟨high, rfl⟩, ⟨Nat.max_le.mpr ⟨h, low⟩, rfl⟩, rfl⟩

theorem reads_decode {width : Nat} (hw : 4 ≤ width) (hw' : width ≤ 67) :
    Reads (decode width) encode (· < Nat.pow 256 width) := by
  intro bytes n rest
  refine ⟨?_, ?_⟩
  · exact encode_of_decode hw
  · rintro ⟨hn, rfl⟩
    exact decode_encode hw' hn rest

theorem reads_decode32 : Reads decode32 encode32 fun _ => True :=
  (reads_decode (by decide) (by decide)).map
    (fun _ hn => ⟨trivial, UInt32.toNat_ofNat_of_lt' hn⟩)
    fun w _ => ⟨w.toNat_lt, UInt32.ofNat_toNat⟩

theorem reads_decode64 : Reads decode64 encode64 fun _ => True :=
  (reads_decode (by decide) (by decide)).map
    (fun _ hn => ⟨trivial, UInt64.toNat_ofNat_of_lt' hn⟩)
    fun w _ => ⟨w.toNat_lt, UInt64.ofNat_toNat⟩

theorem reads_decode128 : Reads decode128 encode128 fun _ => True :=
  (reads_decode (by decide) (by decide)).map (fun _ hn => ⟨trivial, toNat_bitVec_ofNat hn⟩)
    fun w _ => ⟨w.isLt, bitVec_ofNat_toNat w⟩

end Compact

open Canonical

/-- The length of a list has to fit into 32 bits. -/
instance {α : Type} [Scale α] [Canonical α] : Canonical (List α) where
  Fits as := as.length < 4294967296 ∧ ∀ a ∈ as, Fits a
  reads bytes as rest := by
    unfold instScaleList
    simp only [bind_eq_some, (Compact.reads_decode (Nat.le_refl 4) (by decide)).iff,
      (reads_times reads _).iff]
    refine ⟨?_, ?_⟩
    · rintro ⟨n, _, ⟨hn, rfl⟩, ⟨rfl, has⟩, rfl⟩
      rw [List.append_assoc]
      exact ⟨⟨hn, has⟩, rfl⟩
    · rintro ⟨⟨hn, has⟩, rfl⟩
      rw [List.append_assoc]
      exact ⟨as.length, _, ⟨hn, rfl⟩, ⟨rfl, has⟩, rfl⟩

end XcmTasks
