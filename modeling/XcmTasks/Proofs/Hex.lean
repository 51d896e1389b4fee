import Mathlib.Data.List.Induction
import XcmTasks.Proofs.LetterCase
import XcmTasks.Proofs.Results
import XcmTasks.Text.Code
import XcmTasks.Text.Hex

/-!
Which texts are read as which bytes: the digits of the bytes in either case, behind `0x` or not, and
nothing else. The reader works on the bytes of the text, so the digits that it has read are found
again as characters.
-/

namespace XcmTasks

theorem utf8_eq_flatMap (cs : List Char) :
    utf8 (String.ofList cs) = cs.flatMap String.utf8EncodeChar := by
  unfold utf8
  rw [String.toUTF8, String.toByteArray_ofList]
  exact List.toList_data_toByteArray

theorem utf8EncodeChar_of_ascii {c : Char} (h : c.toNat < 128) :
    String.utf8EncodeChar c = [c.toUInt8] := by
  have one_byte : c.utf8Size = 1 := by
    rw [Char.utf8Size_eq_one_iff, UInt32.le_iff_toNat_le]
    exact Nat.le_of_lt_succ h
  rw [String.utf8EncodeChar_eq_singleton one_byte]
  rfl

theorem utf8_ofList {cs : List Char} (h : ∀ c ∈ cs, c.toNat < 128) :
    utf8 (String.ofList cs) = cs.map Char.toUInt8 := by
  rw [utf8_eq_flatMap]
  induction cs with
  | nil => rfl
  | cons c cs ih =>
    obtain ⟨hc, h⟩ := List.forall_mem_cons.mp h
    rw [List.flatMap_cons, ih h, utf8EncodeChar_of_ascii hc]
    rfl

theorem utf8_inj {s t : String} : utf8 s = utf8 t ↔ s = t := by
  unfold utf8
  rw [Array.toList_inj, ← ByteArray.ext_iff]
  exact String.toByteArray_inj

theorem toList_of_utf8 {s : String} {cs : List Char} (h : ∀ c ∈ cs, c.toNat < 128)
    (hs : utf8 s = cs.map Char.toUInt8) : s.toList = cs := by
  rw [← utf8_ofList h, utf8_inj] at hs
  rw [hs, String.toList_ofList]

namespace Hex

open Text (SameLetter)

/-- The text is the digits of the bytes, each of them in either case, behind `0x` or not. -/
def Spells (text : String) (bytes : Bytes) : Prop :=
  ∃ digits, (text.toList = '0' :: 'x' :: digits ∨ text.toList = digits) ∧
    List.Forall₂ SameLetter digits (encodeChars bytes)

/-- The text is an even number of hexadecimal digits, behind `0x` or not. -/
def WellFormed (text : String) : Prop :=
  ∃ digits, (text.toList = '0' :: 'x' :: digits ∨ text.toList = digits) ∧
    digits.length % 2 = 0 ∧ ∀ d ∈ digits, Text.isHexDigit d = true

variable {b v : UInt8} {ds bytes : Bytes} {digits : List Char} {position : Nat} {text : String}

/-! ### Digits -/

theorem value?_digit {n : Nat} (h : n < 16) :
    value? (digit n).toUInt8 = some (UInt8.ofNat n) := by
  have all : ∀ m < 16, value? (digit m).toUInt8 = some (UInt8.ofNat m) := by decide
  exact all n h

theorem value?_toUInt8 {c : Char} {n : Nat} (h : n < 16) (same : SameLetter c (digit n)) :
    value? c.toUInt8 = some (UInt8.ofNat n) := by
  have agree : value? c.toUInt8 = value? (digit n).toUInt8 :=
    same.agree (f := fun c => value? c.toUInt8) (by decide)
  rw [agree, value?_digit h]

theorem hexValue?_digit {n : Nat} (h : n < 16) : Text.hexValue? (digit n) = some n := by
  have all : ∀ m < 16, Text.hexValue? (digit m) = some m := by decide
  exact all n h

theorem hexValue?_of_sameLetter {c : Char} {n : Nat} (h : n < 16) (same : SameLetter c (digit n)) :
    Text.hexValue? c = some n := by
  rw [same.agree (f := Text.hexValue?) (by decide), hexValue?_digit h]

theorem sameLetter_of_hexValue? {c : Char} {n : Nat} (h : Text.hexValue? c = some n) :
    n < 16 ∧ SameLetter c (digit n) := by
  have small : c.toNat < 128 := by
    unfold Text.hexValue? at h
    grind
  have all : ∀ m < 128, (Text.hexValue? (Char.ofNat m)).all fun n =>
      n < 16 && Text.asciiLowerChar (Char.ofNat m) == Text.asciiLowerChar (digit n) := by
    decide +kernel
  have here := all c.toNat small
  rw [Char.ofNat_toNat, h, Option.all_some, Bool.and_eq_true, decide_eq_true_eq,
    beq_iff_eq] at here
  exact ⟨here.1, Text.asciiLowerChar_eq_iff.mp here.2⟩

theorem value?_eq (b : UInt8) :
    value? b = (Text.hexValue? (Char.ofNat b.toNat)).map UInt8.ofNat := by
  have all : ∀ n < 256,
      value? (UInt8.ofNat n) = (Text.hexValue? (Char.ofNat n)).map UInt8.ofNat := by
    decide +kernel
  have here := all b.toNat b.toNat_lt
  rwa [UInt8.ofNat_toNat] at here

theorem toNat_ofNat_half {n : Nat} (h : n < 16) : (UInt8.ofNat n).toNat = n :=
  UInt8.toNat_ofNat_of_lt' (Nat.lt_trans h (by decide))

theorem eq_toUInt8_of_value? (h : value? b = some v) :
    v.toNat < 16 ∧ ∃ c, SameLetter c (digit v.toNat) ∧ b = c.toUInt8 := by
  rw [value?_eq] at h
  obtain ⟨n, hn, rfl⟩ := Option.map_eq_some_iff.mp h
  obtain ⟨small, same⟩ := sameLetter_of_hexValue? hn
  have valid : b.toNat.isValidChar := .inl (Nat.lt_trans b.toNat_lt (by decide))
  rw [toNat_ofNat_half small]
  refine ⟨small, Char.ofNat b.toNat, same, ?_⟩
  apply UInt8.toNat.inj
  change b.toNat = (Char.ofNat b.toNat).toNat % 256
  rw [Text.toNat_ofNat valid, Nat.mod_eq_of_lt b.toNat_lt]

theorem digitsOfByte_ofNat {h l : Nat} (hh : h < 16) (hl : l < 16) :
    digitsOfByte (UInt8.ofNat (16 * h + l)) = [digit h, digit l] := by
  have whole : (UInt8.ofNat (16 * h + l)).toNat = 16 * h + l :=
    UInt8.toNat_ofNat_of_lt' (by change _ < 256; omega)
  have first : (16 * h + l) / 16 = h := by omega
  have second : (16 * h + l) % 16 = l := by omega
  rw [digitsOfByte, whole, first, second]

theorem digitsOfByte_halves {high low : UInt8} (hh : high.toNat < 16) (hl : low.toNat < 16) :
    digitsOfByte (high * 16 + low) = [digit high.toNat, digit low.toNat] := by
  have whole : high * 16 + low = UInt8.ofNat (16 * high.toNat + low.toNat) := by
    apply UInt8.toNat.inj
    rw [UInt8.toNat_add, UInt8.toNat_mul, UInt8.toNat_ofNat']
    change (high.toNat * 16 % 256 + low.toNat) % 256 = (16 * high.toNat + low.toNat) % 256
    omega
  rw [whole, digitsOfByte_ofNat hh hl]

theorem halves_byte (b : UInt8) :
    UInt8.ofNat (b.toNat / 16) * 16 + UInt8.ofNat (b.toNat % 16) = b := by
  have small := b.toNat_lt
  apply UInt8.toNat.inj
  rw [UInt8.toNat_add, UInt8.toNat_mul, UInt8.toNat_ofNat', UInt8.toNat_ofNat']
  change (b.toNat / 16 % 256 * 16 % 256 + b.toNat % 16 % 256) % 256 = b.toNat
  omega

theorem length_encodeChars (bytes : Bytes) : (encodeChars bytes).length = 2 * bytes.length := by
  simp [encodeChars, digitsOfByte, Nat.mul_comm]

theorem of_mem_encodeChars {c : Char} (h : c ∈ encodeChars bytes) : ∃ n < 16, c = digit n := by
  obtain ⟨b, -, hb⟩ := List.mem_flatMap.mp h
  have bound := b.toNat_lt
  rcases List.mem_cons.mp hb with rfl | hb
  · exact ⟨_, by omega, rfl⟩
  · exact ⟨_, by omega, List.mem_singleton.mp hb⟩

theorem forall_of_sameLetter {P : Char → Prop}
    (h : List.Forall₂ SameLetter digits (encodeChars bytes))
    (hP : ∀ c n, n < 16 → SameLetter c (digit n) → P c) : ∀ c ∈ digits, P c := by
  have only : ∀ d ∈ encodeChars bytes, ∃ n < 16, d = digit n := fun _ => of_mem_encodeChars
  generalize encodeChars bytes = letters at h only
  induction h with
  | nil => exact List.forall_mem_nil _
  | cons same _ ih =>
    obtain ⟨⟨n, small, rfl⟩, others⟩ := List.forall_mem_cons.mp only
    exact List.forall_mem_cons.mpr ⟨hP _ n small same, ih others⟩

theorem ascii_of_sameLetter (h : List.Forall₂ SameLetter digits (encodeChars bytes)) :
    ∀ c ∈ digits, c.toNat < 128 := by
  have ascii : ∀ n < 16, (digit n).toNat < 128 := by decide
  refine forall_of_sameLetter h ?_
  intro c n small same
  have := ascii n small
  rcases same with rfl | ⟨_, _, _⟩ | ⟨_, _, _⟩ <;> omega

theorem exists_sameLetter_iff :
    (∃ bytes, List.Forall₂ SameLetter digits (encodeChars bytes)) ↔
      digits.length % 2 = 0 ∧ ∀ d ∈ digits, Text.isHexDigit d = true := by
  refine ⟨?_, ?_⟩
  · rintro ⟨bytes, same⟩
    have all : ∀ n < 16, Text.isHexDigit (digit n) = true := by decide
    have length := same.length_eq
    rw [length_encodeChars] at length
    refine ⟨by omega, forall_of_sameLetter same ?_⟩
    intro c n small same
    rw [same.agree (f := Text.isHexDigit) (by decide)]
    exact all n small
  · rintro ⟨even, all⟩
    induction digits using List.twoStepInduction with
    | nil => exact ⟨[], .nil⟩
    | singleton d => cases even
    | cons_cons high low digits ih =>
      simp only [List.forall_mem_cons] at all
      obtain ⟨hh, hl, all⟩ := all
      rw [List.length_cons, List.length_cons] at even
      obtain ⟨bytes, sames⟩ := ih (by omega) all
      obtain ⟨n, hn⟩ := Option.isSome_iff_exists.mp hh
      obtain ⟨m, hm⟩ := Option.isSome_iff_exists.mp hl
      obtain ⟨small, same⟩ := sameLetter_of_hexValue? hn
      obtain ⟨small', same'⟩ := sameLetter_of_hexValue? hm
      refine ⟨UInt8.ofNat (16 * n + m) :: bytes, ?_⟩
      rw [encodeChars, List.flatMap_cons, digitsOfByte_ofNat small small']
      exact .cons same (.cons same' sames)

/-! ### Pairs of digits -/

theorem value_eq_ok : value b position = .ok v ↔ value? b = some v := by
  unfold value
  cases value? b <;> simp

theorem decodePairs_pair_eq_ok {a b : UInt8} {rest : Bytes} :
    decodePairs position (a :: b :: rest) = .ok bytes ↔
      ∃ high low others, value? a = some high ∧ value? b = some low ∧
        decodePairs (position + 2) rest = .ok others ∧ bytes = (high * 16 + low) :: others := by
  rw [decodePairs]
  refine ⟨?_, ?_⟩
  · intro h
    obtain ⟨high, hh, h⟩ := bind_eq_ok h
    obtain ⟨low, hl, h⟩ := bind_eq_ok h
    obtain ⟨others, ho, h⟩ := bind_eq_ok h
    cases h
    exact ⟨high, low, others, value_eq_ok.mp hh, value_eq_ok.mp hl, ho, rfl⟩
  · rintro ⟨high, low, others, hh, hl, ho, rfl⟩
    rw [value_eq_ok.mpr hh, value_eq_ok.mpr hl, ho]
    rfl

theorem decodePairs_of_sameLetter (same : List.Forall₂ SameLetter digits (encodeChars bytes)) :
    decodePairs position (digits.map Char.toUInt8) = .ok bytes := by
  induction bytes generalizing digits position with
  | nil =>
    cases same
    rfl
  | cons b bytes ih =>
    have bound := b.toNat_lt
    change List.Forall₂ SameLetter digits
      (digit (b.toNat / 16) :: digit (b.toNat % 16) :: encodeChars bytes) at same
    obtain _ | ⟨high, _ | ⟨low, same⟩⟩ := same
    refine decodePairs_pair_eq_ok.mpr ⟨_, _, bytes, value?_toUInt8 (by omega) high,
      value?_toUInt8 (by omega) low, ih same, ?_⟩
    rw [halves_byte]

theorem sameLetter_of_decodePairs (h : decodePairs position ds = .ok bytes) :
    ∃ digits, ds = digits.map Char.toUInt8 ∧ List.Forall₂ SameLetter digits (encodeChars bytes) := by
  induction position, ds using decodePairs.induct generalizing bytes with
  | case1 position =>
    cases h
    exact ⟨[], rfl, .nil⟩
  | case2 position a => cases h
  | case3 position a b rest ih =>
    obtain ⟨high, low, others, hh, hl, ho, rfl⟩ := decodePairs_pair_eq_ok.mp h
    obtain ⟨small, c, same, rfl⟩ := eq_toUInt8_of_value? hh
    obtain ⟨small', c', same', rfl⟩ := eq_toUInt8_of_value? hl
    obtain ⟨digits, rfl, sames⟩ := ih ho
    refine ⟨c :: c' :: digits, rfl, ?_⟩
    rw [encodeChars, List.flatMap_cons, digitsOfByte_halves small small']
    exact .cons same (.cons same' sames)

/-! ### Texts -/

theorem wellFormed_iff : WellFormed text ↔ ∃ bytes, Spells text bytes := by
  unfold WellFormed Spells
  simp only [← exists_sameLetter_iff]
  refine ⟨?_, ?_⟩
  · rintro ⟨digits, hd, bytes, same⟩
    exact ⟨bytes, digits, hd, same⟩
  · rintro ⟨bytes, digits, hd, same⟩
    exact ⟨digits, hd, bytes, same⟩

theorem decodeBare_of_sameLetter (same : List.Forall₂ SameLetter digits (encodeChars bytes)) :
    decodeBare (digits.map Char.toUInt8) = .ok bytes := by
  have even : (digits.map Char.toUInt8).length % 2 ≠ 1 := by
    rw [List.length_map, same.length_eq, length_encodeChars]
    omega
  rw [decodeBare, if_neg even]
  exact decodePairs_of_sameLetter same

theorem sameLetter_of_decodeBare (h : decodeBare ds = .ok bytes) :
    ∃ digits, ds = digits.map Char.toUInt8 ∧ List.Forall₂ SameLetter digits (encodeChars bytes) := by
  unfold decodeBare at h
  split at h
  case isTrue => cases h
  case isFalse => exact sameLetter_of_decodePairs h

/-- An `x` is no digit, so digits that are read alone are not taken for a marker. -/
theorem dropMarker_of_decodeBare (h : decodeBare ds = .ok bytes) : dropMarker ds = ds := by
  unfold dropMarker
  split
  case h_1 rest =>
    unfold decodeBare at h
    split at h
    case isTrue => cases h
    case isFalse =>
      have noDigit : value? 120 = none := rfl
      obtain ⟨-, low, -, -, hl, -⟩ := decodePairs_pair_eq_ok.mp h
      cases noDigit.symm.trans hl
  case h_2 => rfl

theorem dropMarker_eq_or (ds : Bytes) : ds = 48 :: 120 :: dropMarker ds ∨ ds = dropMarker ds := by
  unfold dropMarker
  split
  case h_1 => exact .inl rfl
  case h_2 => exact .inr rfl

theorem decode_eq_ok : decode text = .ok bytes ↔ Spells text bytes := by
  unfold decode
  refine ⟨?_, ?_⟩
  · intro h
    obtain ⟨digits, hd, same⟩ := sameLetter_of_decodeBare h
    have ascii := ascii_of_sameLetter same
    refine ⟨digits, ?_, same⟩
    rcases dropMarker_eq_or (utf8 text) with marked | bare
    · have ascii' : ∀ c ∈ '0' :: 'x' :: digits, c.toNat < 128 := by simpa using ascii
      rw [hd] at marked
      exact .inl (toList_of_utf8 ascii' marked)
    · rw [hd] at bare
      exact .inr (toList_of_utf8 ascii bare)
  · rintro ⟨digits, hd, same⟩
    have ascii := ascii_of_sameLetter same
    have read := decodeBare_of_sameLetter same
    rw [← String.ofList_toList (s := text)]
    rcases hd with marked | bare
    · have ascii' : ∀ c ∈ '0' :: 'x' :: digits, c.toNat < 128 := by simpa using ascii
      rw [marked, utf8_ofList ascii']
      exact read
    · rw [bare, utf8_ofList ascii, dropMarker_of_decodeBare read]
      exact read

example : decode "aBCd" = .ok [171, 205] := rfl

theorem spells_encode (bytes : Bytes) : Spells (encode bytes) bytes := by
  refine ⟨encodeChars bytes, .inl ?_, List.forall₂_same.mpr fun _ _ => .inl rfl⟩
  simp only [encode, encodeBare, String.toList_append, String.toList_ofList]
  rfl

theorem decode_encode (bytes : Bytes) : decode (encode bytes) = .ok bytes :=
  decode_eq_ok.mpr (spells_encode bytes)

end Hex

end XcmTasks
