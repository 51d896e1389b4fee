import XcmTasks.Proofs.Hex

/-!
What digits stand for, and what is found wrong with a text that is not made of them. Reading works
on the bytes of the text: first their number is looked at, and then they are read in pairs up to the
first one that is no digit.
-/

namespace XcmTasks.Hex

open Text (SameLetter isHexDigit hexValue?)

variable {cs digits : List Char} {a b : UInt8} {ds front bytes rest : Bytes} {position : Nat}
  {e : HexError}

/-! ### Digits -/

/-- Two digits stand for each byte, the higher half first. -/
inductive Denotes : List Char → Bytes → Prop
  | nil : Denotes [] []
  | pair {high low : Char} {h l : Nat} {digits : List Char} {bytes : Bytes}
      (hh : hexValue? high = some h) (hl : hexValue? low = some l) (others : Denotes digits bytes) :
      Denotes (high :: low :: digits) (UInt8.ofNat (16 * h + l) :: bytes)

/-- The digits that stand for bytes are those that the bytes are written with, in either case. -/
theorem denotes_iff :
    Denotes digits bytes ↔ List.Forall₂ SameLetter digits (encodeChars bytes) := by
  refine ⟨?_, ?_⟩
  · intro h
    induction h with
    | nil => exact .nil
    | pair hh hl _ ih =>
      obtain ⟨small, same⟩ := sameLetter_of_hexValue? hh
      obtain ⟨small', same'⟩ := sameLetter_of_hexValue? hl
      rw [encodeChars, List.flatMap_cons, digitsOfByte_ofNat small small']
      exact .cons same (.cons same' ih)
  · intro same
    induction bytes generalizing digits with
    | nil =>
      cases same
      exact .nil
    | cons b bytes ih =>
      have bound := b.toNat_lt
      change List.Forall₂ SameLetter digits
        (digit (b.toNat / 16) :: digit (b.toNat % 16) :: encodeChars bytes) at same
      obtain _ | ⟨high, _ | ⟨low, same⟩⟩ := same
      have whole : b = UInt8.ofNat (16 * (b.toNat / 16) + b.toNat % 16) := by
        rw [Nat.div_add_mod, UInt8.ofNat_toNat]
      rw [whole]
      exact .pair (hexValue?_of_sameLetter (by omega) high)
        (hexValue?_of_sameLetter (by omega) low) (ih same)

theorem Denotes.length (h : Denotes digits bytes) : digits.length = 2 * bytes.length := by
  rw [(denotes_iff.mp h).length_eq, length_encodeChars]

theorem exists_denotes_iff :
    (∃ bytes, Denotes digits bytes) ↔
      digits.length % 2 = 0 ∧ ∀ d ∈ digits, isHexDigit d = true := by
  simp only [denotes_iff, exists_sameLetter_iff]

theorem exists_denotes_length_iff {n : Nat} :
    (∃ bytes, Denotes digits bytes ∧ bytes.length = n) ↔
      (∀ d ∈ digits, isHexDigit d = true) ∧ digits.length = 2 * n := by
  refine ⟨?_, ?_⟩
  · rintro ⟨bytes, denotes, rfl⟩
    exact ⟨(exists_denotes_iff.mp ⟨bytes, denotes⟩).2, denotes.length⟩
  · rintro ⟨all, length⟩
    obtain ⟨bytes, denotes⟩ := exists_denotes_iff.mpr ⟨by omega, all⟩
    have := denotes.length
    exact ⟨bytes, denotes, by omega⟩

/-! ### Bytes of a text -/

/-- `digits` is what follows a marker, or everything if no marker stands in front. -/
def Unmarks (cs digits : List Char) : Prop :=
  cs = '0' :: 'x' :: digits ∨ cs = digits ∧ ¬['0', 'x'] <+: cs

theorem le_of_utf8EncodeChar {c : Char} (h : String.utf8EncodeChar c = b :: rest)
    (large : 128 ≤ c.toNat) : 128 ≤ b.toNat := by
  have notAscii : ¬c.val.toNat ≤ 127 := Nat.not_le.mpr large
  unfold String.utf8EncodeChar at h
  dsimp only at h
  rw [if_neg notAscii] at h
  split at h
  · cases h
    rw [UInt8.toNat_ofNat']
    omega
  · split at h
    · cases h
      rw [UInt8.toNat_ofNat']
      omega
    · cases h
      rw [UInt8.toNat_ofNat']
      omega

theorem of_utf8_eq_cons (small : b.toNat < 128) (h : utf8 (String.ofList cs) = b :: rest) :
    ∃ others, cs = Char.ofNat b.toNat :: others ∧ utf8 (String.ofList others) = rest := by
  cases cs with
  | nil => cases h
  | cons c others =>
    rw [utf8_eq_flatMap, List.flatMap_cons, ← utf8_eq_flatMap] at h
    by_cases ascii : c.toNat < 128
    · rw [utf8EncodeChar_of_ascii ascii] at h
      obtain ⟨rfl, rfl⟩ := List.cons.inj h
      have value : c.toUInt8.toNat = c.toNat := Nat.mod_eq_of_lt (Nat.lt_trans ascii (by decide))
      exact ⟨others, by rw [value, Char.ofNat_toNat], rfl⟩
    · obtain ⟨first, more, split⟩ :=
        List.exists_cons_of_ne_nil (@String.utf8EncodeChar_ne_nil c)
      rw [split] at h
      obtain ⟨rfl, -⟩ := List.cons.inj h
      have := le_of_utf8EncodeChar split (Nat.not_lt.mp ascii)
      omega

theorem Unmarks.dropMarker (h : Unmarks cs digits) :
    dropMarker (utf8 (String.ofList cs)) = utf8 (String.ofList digits) := by
  rcases h with rfl | ⟨rfl, unmarked⟩
  · rw [utf8_eq_flatMap, List.flatMap_cons, List.flatMap_cons, ← utf8_eq_flatMap]
    rfl
  · unfold Hex.dropMarker
    split
    case h_1 rest marked =>
      obtain ⟨others, rfl, behind⟩ := of_utf8_eq_cons (by decide) marked
      obtain ⟨others, rfl, -⟩ := of_utf8_eq_cons (by decide) behind
      exact absurd ⟨others, rfl⟩ unmarked
    case h_2 => rfl

theorem exists_unique_unmarks (cs : List Char) : ∃! digits, Unmarks cs digits := by
  by_cases marked : ['0', 'x'] <+: cs
  · obtain ⟨digits, rfl⟩ := marked
    refine ⟨digits, .inl rfl, ?_⟩
    rintro others (same | ⟨-, unmarked⟩)
    · cases same
      rfl
    · exact absurd ⟨digits, rfl⟩ unmarked
  · refine ⟨cs, .inr ⟨rfl, marked⟩, ?_⟩
    rintro others (rfl | ⟨rfl, -⟩)
    · exact absurd ⟨others, rfl⟩ marked
    · rfl

/-! ### Reading digits -/

def IsDigit (b : UInt8) : Prop := isHexDigit (Char.ofNat b.toNat) = true

instance : DecidablePred IsDigit := fun b =>
  inferInstanceAs (Decidable (isHexDigit (Char.ofNat b.toNat) = true))

/-- The first byte that is no digit is `b`, behind `front`. -/
def Strays (ds front : Bytes) (b : UInt8) : Prop :=
  ∃ back, ds = front ++ b :: back ∧ (∀ d ∈ front, IsDigit d) ∧ ¬IsDigit b

/-- What is found wrong with bytes that should be digits: that their number is odd, whatever they
are, and otherwise the first one that is no digit. -/
inductive Flaw (ds : Bytes) : HexError → Prop
  | odd (length : ds.length % 2 = 1) : Flaw ds .oddLength
  | stray {front : Bytes} {b : UInt8} (length : ds.length % 2 = 0) (first : Strays ds front b) :
      Flaw ds (.invalidCharacter b front.length)

theorem isDigit_iff : IsDigit b ↔ ∃ v, value? b = some v := by
  rw [value?_eq, IsDigit, isHexDigit, ← Option.isSome_iff_exists, Option.isSome_map]

theorem strays_cons :
    Strays (a :: ds) front b ↔
      (¬IsDigit a ∧ front = [] ∧ b = a) ∨
        IsDigit a ∧ ∃ front', front = a :: front' ∧ Strays ds front' b := by
  unfold Strays
  refine ⟨?_, ?_⟩
  · rintro ⟨back, split, before, here⟩
    cases front with
    | nil =>
      cases split
      exact .inl ⟨here, rfl, rfl⟩
    | cons d front =>
      cases split
      obtain ⟨first, before⟩ := List.forall_mem_cons.mp before
      exact .inr ⟨first, front, rfl, back, rfl, before, here⟩
  · rintro (⟨here, rfl, rfl⟩ | ⟨first, front, rfl, back, rfl, before, here⟩)
    · exact ⟨ds, rfl, List.forall_mem_nil _, here⟩
    · exact ⟨back, rfl, List.forall_mem_cons.mpr ⟨first, before⟩, here⟩

theorem exists_strays_iff : (∃ front b, Strays ds front b) ↔ ∃ b ∈ ds, ¬IsDigit b := by
  induction ds with
  | nil => simp [Strays]
  | cons a ds ih =>
    simp only [strays_cons, List.mem_cons, exists_eq_or_imp]
    by_cases first : IsDigit a
    · simp only [first, not_true, false_and, false_or, true_and, ← ih]
      refine ⟨?_, ?_⟩
      · rintro ⟨_, b, front, -, here⟩
        exact ⟨front, b, here⟩
      · rintro ⟨front, b, here⟩
        exact ⟨a :: front, b, front, rfl, here⟩
    · simp [first]

/-- A pair is at fault for its first byte, for its second one only if the first one is a digit, and
for neither if both are digits. -/
theorem decodePairs_pair_eq_error :
    decodePairs position (a :: b :: rest) = .error e ↔
      (¬IsDigit a ∧ e = .invalidCharacter a position) ∨
        IsDigit a ∧ ((¬IsDigit b ∧ e = .invalidCharacter b (position + 1)) ∨
          IsDigit b ∧ decodePairs (position + 2) rest = .error e) := by
  rw [decodePairs, value, value, isDigit_iff, isDigit_iff]
  cases value? a with
  | none => simp [bind, Except.bind, eq_comm]
  | some high =>
    cases value? b with
    | none => simp [bind, Except.bind, eq_comm]
    | some low =>
      cases decodePairs (position + 2) rest <;> simp [bind, Except.bind, pure, Except.pure]

theorem decodePairs_eq_error (even : ds.length % 2 = 0) :
    decodePairs position ds = .error e ↔
      ∃ front b, Strays ds front b ∧ e = .invalidCharacter b (position + front.length) := by
  induction position, ds using decodePairs.induct with
  | case1 position => simp [decodePairs, Strays]
  | case2 position a => cases even
  | case3 position a b rest ih =>
    rw [List.length_cons, List.length_cons] at even
    rw [decodePairs_pair_eq_error, ih (by omega)]
    have on (front : Bytes) :
        position + (a :: b :: front).length = position + 2 + front.length := by
      rw [List.length_cons, List.length_cons]
      omega
    simp only [strays_cons]
    refine ⟨?_, ?_⟩
    · rintro (⟨stray, rfl⟩ | ⟨first, ⟨stray, rfl⟩ | ⟨second, front, c, here, rfl⟩⟩)
      · exact ⟨[], a, .inl ⟨stray, rfl, rfl⟩, rfl⟩
      · exact ⟨[a], b, .inr ⟨first, [], rfl, .inl ⟨stray, rfl, rfl⟩⟩, rfl⟩
      · exact ⟨a :: b :: front, c, .inr ⟨first, _, rfl, .inr ⟨second, _, rfl, here⟩⟩, by rw [on]⟩
    · rintro ⟨_, c, ⟨stray, rfl, rfl⟩ |
        ⟨first, _, rfl, ⟨stray, rfl, rfl⟩ | ⟨second, front, rfl, here⟩⟩, rfl⟩
      · exact .inl ⟨stray, rfl⟩
      · exact .inr ⟨first, .inl ⟨stray, rfl⟩⟩
      · exact .inr ⟨first, .inr ⟨second, front, c, here, by rw [on]⟩⟩

theorem decodeBare_eq_error : decodeBare ds = .error e ↔ Flaw ds e := by
  unfold decodeBare
  by_cases odd : ds.length % 2 = 1
  · rw [if_pos odd]
    refine ⟨?_, ?_⟩
    · rintro ⟨⟩
      exact .odd odd
    · rintro (- | ⟨even, -⟩)
      · rfl
      · omega
  · have even : ds.length % 2 = 0 := by omega
    rw [if_neg odd, decodePairs_eq_error even]
    refine ⟨?_, ?_⟩
    · rintro ⟨front, b, first, rfl⟩
      rw [Nat.zero_add]
      exact .stray even first
    · rintro (length | ⟨-, first⟩)
      · exact absurd length odd
      · exact ⟨_, _, first, by rw [Nat.zero_add]⟩

theorem decodeBare_eq_ok :
    decodeBare (utf8 (String.ofList digits)) = .ok bytes ↔ Denotes digits bytes := by
  rw [denotes_iff]
  refine ⟨?_, ?_⟩
  · intro h
    obtain ⟨digits', hd, same⟩ := sameLetter_of_decodeBare h
    have whole := toList_of_utf8 (ascii_of_sameLetter same) hd
    rw [String.toList_ofList] at whole
    rwa [whole]
  · intro same
    rw [utf8_ofList (ascii_of_sameLetter same)]
    exact decodeBare_of_sameLetter same

theorem exists_flaw_iff :
    (∃ e, Flaw ds e) ↔ ds.length % 2 = 1 ∨ ∃ b ∈ ds, ¬IsDigit b := by
  rw [← exists_strays_iff]
  refine ⟨?_, ?_⟩
  · rintro ⟨_, odd | ⟨-, first⟩⟩
    · exact .inl odd
    · exact .inr ⟨_, _, first⟩
  · rintro (odd | ⟨front, b, first⟩)
    · exact ⟨_, .odd odd⟩
    · rcases Nat.mod_two_eq_zero_or_one ds.length with even | odd
      · exact ⟨_, .stray even first⟩
      · exact ⟨_, .odd odd⟩

end XcmTasks.Hex
