import Mathlib.Data.List.DropRight
import XcmTasks.Account
import XcmTasks.Proofs.Digits
import XcmTasks.Proofs.Json.Settling

/-!
Which texts are read as which account, and what is found wrong with the others. The blanks around a
text and one marker in front of the rest do not count. What is left, the core of the text, tells
the account, or what the text lacks: first the length of the core is looked at, then its bytes one
after another, and the number of bytes that it stands for at last.
-/

namespace XcmTasks

/-! ### Blanks -/

namespace Text

variable {cs body front : List Char}

/-- `body` is the text without the blanks at its two ends. -/
def Trims (cs body : List Char) : Prop :=
  ∃ front back, cs = front ++ body ++ back ∧ (∀ c ∈ front ++ back, isBlank c = true) ∧
    ∀ c, body.head? = some c ∨ body.getLast? = some c → isBlank c = false

theorem dropWhile_blanks (blank : ∀ c ∈ front, isBlank c = true)
    (stop : ∀ c, body.head? = some c → isBlank c = false) :
    (front ++ body).dropWhile isBlank = body := by
  rw [List.dropWhile_append_of_pos blank]
  cases body with
  | nil => rfl
  | cons c rest => rw [List.dropWhile_cons_of_neg (by simp [stop c rfl])]

theorem trimChars_trims (cs : List Char) : Trims cs (trimChars cs) := by
  have trimmed : trimChars cs = (cs.dropWhile isBlank).rdropWhile isBlank := rfl
  refine ⟨cs.takeWhile isBlank, (cs.dropWhile isBlank).rtakeWhile isBlank, ?_, ?_, ?_⟩
  · rw [trimmed, List.append_assoc, List.rdropWhile_append_rtakeWhile,
      List.takeWhile_append_dropWhile]
  · intro c member
    rcases List.mem_append.mp member with first | last
    · exact List.mem_takeWhile_imp first
    · exact List.mem_rtakeWhile_imp last
  · rintro c (first | last)
    · -- the first character was the first one before the end was cut
      obtain ⟨back, split⟩ := List.rdropWhile_prefix isBlank (cs.dropWhile isBlank)
      have here : (cs.dropWhile isBlank).head? = some c := by
        rw [← split, List.head?_append, ← trimmed, first]
        rfl
      have stop := List.head?_dropWhile_not isBlank cs
      rw [here] at stop
      exact stop
    · have some_left : trimChars cs ≠ [] := by
        intro empty
        rw [empty] at last
        cases last
      have stop := List.rdropWhile_last_not isBlank (cs.dropWhile isBlank) some_left
      rw [List.getLast?_eq_some_getLast some_left] at last
      cases last
      exact Bool.eq_false_iff.mpr stop

theorem trims_iff : Trims cs body ↔ body = trimChars cs := by
  refine ⟨?_, ?_⟩
  · rintro ⟨front, back, rfl, blank, ends⟩
    obtain ⟨first, last⟩ := List.forall_mem_append.mp blank
    unfold trimChars
    by_cases empty : body = []
    · subst empty
      have nothing : (front ++ [] ++ back).dropWhile isBlank = [] := by
        rw [List.dropWhile_eq_nil_iff]
        simpa using blank
      rw [nothing]
      rfl
    · have start : (front ++ body ++ back).dropWhile isBlank = body ++ back := by
        rw [List.append_assoc]
        refine dropWhile_blanks first ?_
        intro c hc
        rw [List.head?_append_of_ne_nil _ empty] at hc
        exact ends c (.inl hc)
      rw [start, List.reverse_append, dropWhile_blanks, List.reverse_reverse]
      · simpa using last
      · intro c hc
        rw [List.head?_reverse] at hc
        exact ends c (.inr hc)
  · rintro rfl
    exact trimChars_trims cs

end Text

/-! ### Accounts -/

namespace AccountId

open Hex (Denotes Flaw IsDigit)
open Text (SameLetter isHexDigit)

variable {text text' : String} {core core' : List Char} {bytes : Bytes} {a a' : AccountId} {n : Nat}

/-- What is left of a text without the blanks around it and then without one marker in front. -/
def Core (text : String) (core : List Char) : Prop :=
  ∃ body, Text.Trims text.toList body ∧ Hex.Unmarks body core

/-- What a text with this core is read as. -/
structure ReadBy (text : String) (core : List Char) : Prop where
  accepted : (∃ a, parse text = .ok a) ↔
    (core.length = 40 ∨ core.length = 64) ∧ ∀ c ∈ core, isHexDigit c = true
  account : ∀ a, parse text = .ok a ↔ Denotes core a.bytes
  refused : (∃ cause, parse text = .error (.invalidHex cause)) ↔
    (utf8 (String.ofList core)).length % 2 = 1 ∨ ∃ b ∈ utf8 (String.ofList core), ¬IsDigit b
  cause : ∀ cause, parse text = .error (.invalidHex cause) ↔ Flaw (utf8 (String.ofList core)) cause
  length : ∀ n, parse text = .error (.invalidLength n) ↔
    (∀ c ∈ core, isHexDigit c = true) ∧ core.length = 2 * n ∧ n ≠ 20 ∧ n ≠ 32

theorem exists_unique_core (text : String) : ∃! core, Core text core := by
  simp only [Core, Text.trims_iff, exists_eq_left]
  exact Hex.exists_unique_unmarks _

theorem length_bytes (a : AccountId) : a.bytes.length = 20 ∨ a.bytes.length = 32 := by
  cases a with
  | id32 id => exact .inr id.length_toList
  | key20 key => exact .inl key.length_toList

theorem ofBytes_eq_ok : ofBytes bytes = .ok a ↔ bytes = a.bytes := by
  refine ⟨?_, ?_⟩
  · intro h
    unfold ofBytes at h
    split at h
    · cases h
      rfl
    · split at h <;> cases h
      rfl
  · rintro rfl
    exact ofBytes_bytes a

theorem ofBytes_eq_error {e : AccountError} :
    ofBytes bytes = .error e ↔
      bytes.length ≠ 20 ∧ bytes.length ≠ 32 ∧ e = .invalidLength bytes.length := by
  unfold ofBytes
  split
  case isTrue long => simp [long]
  case isFalse other =>
    split
    case isTrue short => simp [short]
    case isFalse other' => simp [other, other', eq_comm]

theorem Core.decode (h : Core text core) :
    Hex.decode (Text.trim text) = Hex.decodeBare (utf8 (String.ofList core)) := by
  obtain ⟨body, trims, unmarks⟩ := h
  rw [Text.trims_iff.mp trims] at unmarks
  rw [Hex.decode, Text.trim, unmarks.dropMarker]

theorem Core.parse_eq_ok (h : Core text core) : parse text = .ok a ↔ Denotes core a.bytes := by
  rw [← Hex.decodeBare_eq_ok, ← h.decode, parse]
  cases Hex.decode (Text.trim text) with
  | ok bytes => simp [ofBytes_eq_ok]
  | error e => simp

theorem Core.parse_eq_invalidHex (h : Core text core) {cause : HexError} :
    parse text = .error (.invalidHex cause) ↔ Flaw (utf8 (String.ofList core)) cause := by
  rw [← Hex.decodeBare_eq_error, ← h.decode, parse]
  cases Hex.decode (Text.trim text) with
  | ok bytes => simp [ofBytes_eq_error]
  | error e => simp

theorem Core.parse_eq_invalidLength (h : Core text core) :
    parse text = .error (.invalidLength n) ↔
      (∃ bytes, Denotes core bytes ∧ bytes.length = n) ∧ n ≠ 20 ∧ n ≠ 32 := by
  simp only [← Hex.decodeBare_eq_ok]
  rw [← h.decode, parse]
  cases Hex.decode (Text.trim text) with
  | ok bytes =>
    simp only [ofBytes_eq_error, Except.ok.injEq, AccountError.invalidLength.injEq]
    refine ⟨?_, ?_⟩
    · rintro ⟨short, long, rfl⟩
      exact ⟨⟨bytes, rfl, rfl⟩, short, long⟩
    · rintro ⟨⟨_, rfl, rfl⟩, short, long⟩
      exact ⟨short, long, rfl⟩
  | error e => simp

theorem exists_bytes_iff : (∃ a : AccountId, a.bytes = bytes) ↔
    bytes.length = 20 ∨ bytes.length = 32 := by
  refine ⟨?_, ?_⟩
  · rintro ⟨a, rfl⟩
    exact a.length_bytes
  · rintro (short | long)
    · exact ⟨.key20 ⟨bytes, short⟩, rfl⟩
    · exact ⟨.id32 ⟨bytes, long⟩, rfl⟩

theorem Core.accepted_iff (h : Core text core) :
    (∃ a, parse text = .ok a) ↔
      (core.length = 40 ∨ core.length = 64) ∧ ∀ c ∈ core, isHexDigit c = true := by
  simp only [h.parse_eq_ok]
  refine ⟨?_, ?_⟩
  · rintro ⟨a, denotes⟩
    obtain ⟨all, length⟩ := Hex.exists_denotes_length_iff.mp ⟨a.bytes, denotes, rfl⟩
    have := a.length_bytes
    exact ⟨by omega, all⟩
  · rintro ⟨widths, all⟩
    obtain ⟨bytes, denotes⟩ := Hex.exists_denotes_iff.mpr ⟨by omega, all⟩
    have := denotes.length
    obtain ⟨a, rfl⟩ := exists_bytes_iff.mpr (by omega : bytes.length = 20 ∨ bytes.length = 32)
    exact ⟨a, denotes⟩

theorem Core.readBy (h : Core text core) : ReadBy text core where
  accepted := h.accepted_iff
  account _ := h.parse_eq_ok
  refused := by
    simp only [h.parse_eq_invalidHex]
    exact Hex.exists_flaw_iff
  cause _ := h.parse_eq_invalidHex
  length n := by
    rw [h.parse_eq_invalidLength, Hex.exists_denotes_length_iff, and_assoc]

/-- Two texts that are read are read as the same account exactly if their cores are the same but
for the case of the digits. -/
theorem Core.same_iff (h : Core text core) (h' : Core text' core') (read : parse text = .ok a)
    (read' : parse text' = .ok a') : a = a' ↔ List.Forall₂ SameLetter core core' := by
  have same := Hex.denotes_iff.mp (h.parse_eq_ok.mp read)
  have same' := Hex.denotes_iff.mp (h'.parse_eq_ok.mp read')
  rw [Text.forall₂_sameLetter_iff] at same same'
  refine ⟨?_, ?_⟩
  · rintro rfl
    rw [Text.forall₂_sameLetter_iff, same, same']
  · intro cores
    rw [Text.forall₂_sameLetter_iff] at cores
    -- the second core stands for the bytes of the first account too
    have both : Denotes core' a.bytes := by
      rw [Hex.denotes_iff, Text.forall₂_sameLetter_iff, ← cores, same]
    exact Except.ok.inj ((h'.parse_eq_ok.mpr both).symm.trans read')

/-! ### Written accounts -/

theorem text_core (a : AccountId) : Core a.text (Hex.encodeChars a.bytes) := by
  have written : a.text.toList = '0' :: 'x' :: Hex.encodeChars a.bytes := by
    simp only [text, Hex.encode, Hex.encodeBare, String.toList_append, String.toList_ofList]
    rfl
  have dark : ∀ n < 16, Text.isBlank (Hex.digit n) = false := by decide
  have noBlank : ∀ c ∈ a.text.toList, Text.isBlank c = false := by
    rw [written]
    simp only [List.forall_mem_cons]
    refine ⟨rfl, rfl, ?_⟩
    intro c member
    obtain ⟨n, small, rfl⟩ := Hex.of_mem_encodeChars member
    exact dark n small
  refine ⟨a.text.toList, ⟨[], [], by simp, by simp, ?_⟩, .inl written⟩
  rintro c (first | last)
  · exact noBlank c (List.mem_of_mem_head? first)
  · exact noBlank c (List.mem_of_getLast? last)

theorem parse_text (a : AccountId) : parse a.text = .ok a :=
  a.text_core.parse_eq_ok.mpr (Hex.denotes_iff.mpr (List.forall₂_same.mpr fun _ _ => .inl rfl))

theorem steady {d : Nat} (a : AccountId) : Steady d a := by
  have written : Document.string .exact (toJson a).tree = .ok a.text := rfl
  refine ⟨.text _, ?_⟩
  change (Document.string .exact (toJson a).tree >>= _) = _
  rw [written]
  dsimp only [bind, Except.bind]
  rw [parse_text]
  rfl

/-- Every text has one core, which alone decides what the text is read as. Accounts are read back
from how they are written, and texts of the same account have the same digits. -/
theorem read_by_core :
    (∀ text, ∃! core, Core text core) ∧
      (∀ text core, Core text core → ReadBy text core) ∧
      (∀ a : AccountId, parse a.text = .ok a ∧ readText (jsonText a) = .ok a) ∧
      ∀ text text' core core' a a', Core text core → Core text' core' → parse text = .ok a →
        parse text' = .ok a' → (a = a' ↔ List.Forall₂ SameLetter core core') :=
  ⟨exists_unique_core, fun _ _ => Core.readBy, fun a => ⟨a.parse_text, a.steady.readText⟩,
    fun _ _ _ _ _ _ => Core.same_iff⟩

def alith : AccountId :=
  .key20 ⟨[0xf2, 0x4f, 0xf3, 0xa9, 0xcf, 0x04, 0xc7, 0x1d, 0xbc, 0x94, 0xd0, 0xb5, 0x66, 0xf7,
    0xa2, 0x7b, 0x94, 0x56, 0x6c, 0xac], rfl⟩

/-- Blanks, the marker and capitals make no difference; a second marker is an `x` among digits. -/
theorem read_by_core_alith :
    parse "\u2003 0xf24FF3a9CF04c71Dbc94D0b566f7A27B94566cac\n" = .ok alith ∧
      parse "F24FF3A9CF04C71DBC94D0B566F7A27B94566CAC" = .ok alith ∧
      List.Forall₂ SameLetter "f24FF3a9CF04c71Dbc94D0b566f7A27B94566cac".toList
        "F24FF3A9CF04C71DBC94D0B566F7A27B94566CAC".toList ∧
      parse "0x0xAB" = .error (.invalidHex (.invalidCharacter 120 1)) ∧
      parse "\t0x0102" = .error (.invalidLength 2) := by
  obtain ⟨-, readBy, -, same⟩ := read_by_core
  have padded : Core "\u2003 0xf24FF3a9CF04c71Dbc94D0b566f7A27B94566cac\n"
      "f24FF3a9CF04c71Dbc94D0b566f7A27B94566cac".toList :=
    ⟨"0xf24FF3a9CF04c71Dbc94D0b566f7A27B94566cac".toList,
      Text.trims_iff.mpr (by decide +kernel), .inl (by decide +kernel)⟩
  have bare : Core "F24FF3A9CF04C71DBC94D0B566F7A27B94566CAC"
      "F24FF3A9CF04C71DBC94D0B566F7A27B94566CAC".toList :=
    ⟨_, Text.trims_iff.mpr rfl, .inr ⟨rfl, by decide⟩⟩
  have twice : Core "0x0xAB" "0xAB".toList := ⟨_, Text.trims_iff.mpr rfl, .inl rfl⟩
  have short : Core "\t0x0102" "0102".toList := ⟨_, Text.trims_iff.mpr rfl, .inl rfl⟩
  have read : parse "\u2003 0xf24FF3a9CF04c71Dbc94D0b566f7A27B94566cac\n" = .ok alith := by
    refine ((readBy _ _ padded).account alith).mpr (Hex.denotes_iff.mpr ?_)
    exact Text.forall₂_sameLetter_iff.mpr rfl
  have read' : parse "F24FF3A9CF04C71DBC94D0B566F7A27B94566CAC" = .ok alith := by
    refine ((readBy _ _ bare).account alith).mpr (Hex.denotes_iff.mpr ?_)
    exact Text.forall₂_sameLetter_iff.mpr rfl
  refine ⟨read, read', (same _ _ _ _ _ _ padded bare read read').mp rfl, ?_, ?_⟩
  · have bytes : utf8 (String.ofList "0xAB".toList) = [48, 120, 65, 66] := by decide +kernel
    have marker : Hex.Strays [48, 120, 65, 66] [48] 120 :=
      ⟨[65, 66], rfl, List.forall_mem_singleton.mpr (by decide), by decide⟩
    refine ((readBy _ _ twice).cause _).mpr ?_
    rw [bytes]
    exact .stray rfl marker
  · have digits : ∀ c ∈ "0102".toList, isHexDigit c = true := List.all_eq_true.mp rfl
    exact ((readBy _ _ short).length 2).mpr ⟨digits, rfl, by decide, by decide⟩

end AccountId

end XcmTasks
