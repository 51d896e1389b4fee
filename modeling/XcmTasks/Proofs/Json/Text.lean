import Mathlib.Data.List.Basic
import XcmTasks.Json.Reading
import XcmTasks.Proofs.Hex

/-!
The compact text of a JSON value is read back as the tree of its parts. Every part ends where the
next one begins, so each is read back by itself, whatever follows it.
-/

namespace XcmTasks

open Document

namespace Json

/-! ### Trees of values -/

mutual

/-- The tree that the text of a value is read as. -/
def tree : Json → Document
  | .null => .null
  | .bool b => .bool b
  | .number n => .number n.chars
  | .text s => .text (some s)
  | .list items => .list (itemTrees items) true
  | .object members => .object (memberTrees members) true

def itemTrees : List Json → List Document
  | [] => []
  | item :: items => tree item :: itemTrees items

def memberTrees : List (String × Json) → List (Option String × Document)
  | [] => []
  | (key, value) :: members => (some key, tree value) :: memberTrees members

end

/-- All numbers are natural ones, and lists and objects lie inside each other at most so deep. -/
inductive Plain : Nat → Json → Prop where
  | null {d : Nat} : Plain d .null
  | bool {d : Nat} (b : Bool) : Plain d (.bool b)
  | natural {d : Nat} (n : Nat) : Plain d (.ofNat n)
  | text {d : Nat} (s : String) : Plain d (.text s)
  | list {d : Nat} {items : List Json} (h : ∀ item ∈ items, Plain d item) :
      Plain (d + 1) (.list items)
  | object {d : Nat} {members : List (String × Json)} (h : ∀ e ∈ members, Plain d e.2) :
      Plain (d + 1) (.object members)

end Json

namespace Document

/-- What may come behind a value: nothing, or the next part of what it is in. -/
def Ends : List Char → Prop
  | [] => True
  | c :: _ => c = ',' ∨ c = ']' ∨ c = '}'

variable {rest : List Char}

/-! ### Numbers -/

theorem not_isDigit_of_ends {c : Char} {cs : List Char} (h : Ends (c :: cs)) :
    c.isDigit = false := by
  rcases h with rfl | rfl | rfl <;> rfl

theorem digits?_append {ds : List Char} (hd : ∀ d ∈ ds, d.isDigit = true) (hn : ds ≠ [])
    (h : Ends rest) : digits? (ds ++ rest) = some (ds, rest) := by
  have stops : rest.takeWhile Char.isDigit = [] ∧ rest.dropWhile Char.isDigit = rest := by
    cases rest with
    | nil => exact ⟨rfl, rfl⟩
    | cons c cs => simp [not_isDigit_of_ends h]
  unfold digits?
  rw [List.takeWhile_append_of_pos hd, List.dropWhile_append_of_pos hd, stops.1, stops.2,
    List.append_nil]
  cases ds with
  | nil => exact absurd rfl hn
  | cons d ds => rfl

/-- The digits of a number begin with a zero only if it is zero. -/
theorem head_toDigits {n : Nat} (h : 0 < n) : ∃ c ds, Nat.toDigits 10 n = c :: ds ∧ c ≠ '0' := by
  induction n using Nat.strongRecOn with
  | _ n ih =>
    rw [Nat.toDigits_eq_if (by decide)]
    by_cases small : n < 10
    · rw [if_pos small]
      refine ⟨n.digitChar, [], rfl, ?_⟩
      intro zero
      have value := congrArg Char.toNat zero
      rw [Nat.toNat_digitChar_of_lt_ten small] at value
      have : ('0' : Char).toNat = 48 := rfl
      omega
    · rw [if_neg small]
      obtain ⟨c, ds, hc, hz⟩ := ih (n / 10) (by omega) (by omega)
      rw [hc]
      exact ⟨c, ds ++ [(n % 10).digitChar], rfl, hz⟩

theorem isDigit_toDigits (n : Nat) : ∀ d ∈ Nat.toDigits 10 n, d.isDigit = true :=
  fun _ => Nat.isDigit_of_mem_toDigits (by decide) (by decide)

theorem whole?_toDigits (n : Nat) (h : Ends rest) :
    whole? (Nat.toDigits 10 n ++ rest) = some (Nat.toDigits 10 n, rest) := by
  rcases Nat.eq_zero_or_pos n with rfl | hn
  · cases rest with
    | nil => rfl
    | cons c cs =>
      change (if c.isDigit then none else some (['0'], c :: cs)) = some (['0'], c :: cs)
      rw [not_isDigit_of_ends h]
      rfl
  · have all := digits?_append (isDigit_toDigits n) Nat.toDigits_ne_nil h
    obtain ⟨c, ds, hc, hz⟩ := head_toDigits hn
    rw [hc] at all ⊢
    rw [← all]
    unfold whole?
    split
    case h_1 heq => exact absurd (List.cons.inj heq).1 hz
    case h_2 => rfl

theorem fraction?_of_ends (h : Ends rest) : fraction? rest = some ([], rest) := by
  unfold fraction?
  split
  case h_1 => rcases h with h | h | h <;> cases h
  case h_2 => rfl

theorem exponent?_of_ends (h : Ends rest) : exponent? rest = some ([], rest) := by
  cases rest with
  | nil => rfl
  | cons c cs => rcases h with rfl | rfl | rfl <;> rfl

theorem number?_toDigits (n : Nat) (h : Ends rest) :
    number? (Nat.toDigits 10 n ++ rest) = some (Nat.toDigits 10 n, rest) := by
  have unsigned : ∀ ds, Nat.toDigits 10 n ++ rest ≠ '-' :: ds := by
    intro ds heq
    obtain ⟨c, cs, hc⟩ := List.exists_cons_of_ne_nil (Nat.toDigits_ne_nil (b := 10) (n := n))
    have digit := isDigit_toDigits n c (by rw [hc]; exact List.mem_cons_self)
    rw [hc] at heq
    cases heq
    cases digit
  unfold number?
  split
  case h_1 sign cs signed =>
    split at signed
    case h_1 ds heq => exact absurd heq (unsigned ds)
    case h_2 =>
      cases signed
      simp [whole?_toDigits n h, fraction?_of_ends h, exponent?_of_ends h]

theorem plainNatural?_toDigits (n : Nat) : plainNatural? (Nat.toDigits 10 n) = some n := by
  have all : (Nat.toDigits 10 n).all Char.isDigit = true :=
    List.all_eq_true.mpr (isDigit_toDigits n)
  have value : naturalOf (Nat.toDigits 10 n) = n := by
    have same : (fun n d => n * 10 + digitValue d) = fun n d => 10 * n + (d.toNat - '0'.toNat) := by
      funext n d
      rw [Nat.mul_comm]
      rfl
    unfold naturalOf
    rw [same]
    exact Nat.ofDigitChars_ten_toDigits
  unfold plainNatural?
  rw [all, value]
  simp

/-! ### Quoted text -/

theorem escaped?_escapeLetter {c letter : Char} (h : Json.escapeLetter? c = some letter) :
    letter ≠ 'u' ∧ escaped? letter = some c := by
  have coded : ∀ n, c.toNat = n → c = Char.ofNat n := by
    rintro n rfl
    exact (Char.ofNat_toNat c).symm
  unfold Json.escapeLetter? at h
  split at h
  case isTrue plain =>
    cases h
    rcases Bool.or_eq_true_iff.mp plain with hc | hc
    · cases of_decide_eq_true hc
      exact ⟨by decide, rfl⟩
    · cases of_decide_eq_true hc
      exact ⟨by decide, rfl⟩
  case isFalse =>
    split at h
    case h_6 => cases h
    all_goals
      cases h
      refine ⟨by decide, ?_⟩
      rw [coded _ (by assumption)]
      rfl

theorem codeAt?_small {n : Nat} (h : n < 32) (cs : List Char) :
    Text.codeAt? 4 ('0' :: '0' :: Hex.digit (n / 16) :: Hex.digit (n % 16) :: cs) = some n := by
  have high := Hex.hexValue?_digit (n := n / 16) (by omega)
  have low := Hex.hexValue?_digit (n := n % 16) (by omega)
  have zero : Text.hexValue? '0' = some 0 := rfl
  have value : n / 16 * 16 + n % 16 = n := by omega
  have high' : n / 16 < 16 := by omega
  have low' : n % 16 < 16 := by omega
  simp [Text.codeAt?, Text.numberOf?, zero, high, low, value, high', low']

theorem quoted?_escape (fuel : Nat) (c : Char) (cs : List Char) :
    quoted? (fuel + 1) (Json.escape c ++ cs) =
      (quoted? fuel cs).map fun p => (.char c :: p.1, p.2) := by
  unfold Json.escape
  cases hl : Json.escapeLetter? c with
  | some letter =>
    obtain ⟨one_letter, meant⟩ := escaped?_escapeLetter hl
    cases hq : quoted? fuel cs <;> simp [quoted?, meant, hq]
  | none =>
    by_cases small : c.toNat < 32
    · have whole : ¬ (0xD800 ≤ c.toNat ∧ c.toNat < 0xE000) := by omega
      cases hq : quoted? fuel cs <;> simp [quoted?, codeAt?_small, small, whole, hq]
    · have plain : c ≠ '"' ∧ c ≠ '\\' := by
        refine ⟨?_, ?_⟩ <;>
        · rintro rfl
          cases hl
      cases hq : quoted? fuel cs <;> simp [quoted?, small, plain, hq]

theorem quoted?_chars (cs : List Char) {fuel : Nat} (hf : (cs.flatMap Json.escape).length < fuel) :
    quoted? fuel (cs.flatMap Json.escape ++ '"' :: rest) = some (cs.map .char, rest) := by
  induction cs generalizing fuel with
  | nil =>
    obtain ⟨fuel, rfl⟩ := Nat.exists_eq_add_of_lt hf
    rfl
  | cons c cs ih =>
    have some_char : 0 < (Json.escape c).length := by
      unfold Json.escape
      split
      · exact Nat.succ_pos _
      · split <;> exact Nat.succ_pos _
    rw [List.flatMap_cons, List.length_append] at hf
    obtain ⟨fuel, rfl⟩ : ∃ f, fuel = f + 1 := ⟨fuel - 1, by omega⟩
    rw [List.flatMap_cons, List.append_assoc, quoted?_escape, ih (by omega)]
    rfl

theorem joinHalves_chars (cs : List Char) : joinHalves (cs.map .char) = some cs := by
  induction cs with
  | nil => rfl
  | cons c cs ih => rw [List.map_cons, joinHalves, ih, Option.map_some]

theorem quotedText?_quote (s : String) (rest : List Char) {fuel : Nat}
    (hf : (Json.quote s).length ≤ fuel + 1) :
    quotedText? fuel (s.toList.flatMap Json.escape ++ '"' :: rest) = some (some s, rest) := by
  have longer : (s.toList.flatMap Json.escape).length < fuel := by
    rw [Json.quote, List.length_append, List.length_cons, List.length_singleton] at hf
    omega
  unfold quotedText?
  rw [quoted?_chars s.toList longer]
  simp [joinHalves_chars]

/-! ### Values -/

theorem chars_start {d : Nat} {j : Json} (h : Json.Plain d j) :
    ∃ c cs, j.chars = c :: cs ∧ isSpace c = false ∧ c ≠ ']' := by
  cases h with
  | null => exact ⟨'n', _, rfl, rfl, by decide⟩
  | bool b => cases b <;> exact ⟨_, _, rfl, rfl, by decide⟩
  | natural n =>
    obtain ⟨c, cs, hc⟩ := List.exists_cons_of_ne_nil (Nat.toDigits_ne_nil (b := 10) (n := n))
    have digit := isDigit_toDigits n c (by rw [hc]; exact List.mem_cons_self)
    refine ⟨c, cs, hc, ?_, ?_⟩
    · cases hs : isSpace c with
      | false => rfl
      | true =>
        have blank : c = ' ' ∨ c = '\n' ∨ c = '\t' ∨ c = '\r' := by
          simpa [isSpace, or_assoc] using hs
        rcases blank with rfl | rfl | rfl | rfl <;> cases digit
    · rintro rfl
      cases digit
  | text s => exact ⟨'"', _, rfl, rfl, by decide⟩
  | list h => exact ⟨'[', _, by rw [Json.chars]; rfl, rfl, by decide⟩
  | object h => exact ⟨'{', _, by rw [Json.chars]; rfl, rfl, by decide⟩

def laterItems (items : List Json) : List Char := items.flatMap fun item => ',' :: item.chars

def laterMembers (members : List (String × Json)) : List Char :=
  members.flatMap fun e => ',' :: Json.quote e.1 ++ ':' :: e.2.chars

theorem itemChars_cons (item : Json) (items : List Json) :
    Json.itemChars (item :: items) = item.chars ++ laterItems items := by
  induction items generalizing item with
  | nil => simp [Json.itemChars, laterItems]
  | cons next items ih =>
    rw [Json.itemChars, ih]
    · rfl
    · simp

theorem memberChars_cons (key : String) (value : Json) (members : List (String × Json)) :
    Json.memberChars ((key, value) :: members) =
      Json.quote key ++ ':' :: value.chars ++ laterMembers members := by
  induction members generalizing key value with
  | nil => simp [Json.memberChars, laterMembers]
  | cons next members ih =>
    obtain ⟨key', value'⟩ := next
    rw [Json.memberChars, ih]
    · simp [laterMembers]
    · simp

theorem skipSpace_chars {d : Nat} {j : Json} (h : Json.Plain d j) (rest : List Char) :
    skipSpace (j.chars ++ rest) = j.chars ++ rest := by
  obtain ⟨c, cs, hc, solid, -⟩ := chars_start h
  simp [hc, skipSpace, solid]

theorem ends_laterItems (its : List Json) : Ends (laterItems its ++ ']' :: rest) := by
  cases its with
  | nil => exact .inr (.inl rfl)
  | cons item its => exact .inl rfl

theorem ends_laterMembers (mems : List (String × Json)) :
    Ends (laterMembers mems ++ '}' :: rest) := by
  cases mems with
  | nil => exact .inr (.inr rfl)
  | cons e mems => exact .inl rfl

/-- The text is read back as the tree of the value, with enough fuel. -/
def ReadsBack (d : Nat) (j : Json) : Prop :=
  ∀ {fuel : Nat} {rest : List Char}, j.chars.length ≤ fuel → Ends rest →
    value fuel d (j.chars ++ rest) = (j.tree, rest)

theorem items_laterItems {d : Nat} {its : List Json} {fuel : Nat}
    (h : ∀ item ∈ its, Json.Plain d item ∧ ReadsBack d item)
    (hf : (laterItems its).length < fuel) :
    items fuel d false (laterItems its ++ ']' :: rest) = (Json.itemTrees its, true, rest) := by
  induction its generalizing fuel with
  | nil =>
    obtain ⟨fuel, rfl⟩ : ∃ f, fuel = f + 1 := ⟨fuel - 1, by omega⟩
    rfl
  | cons item its ih =>
    obtain ⟨⟨plain, back⟩, h⟩ := List.forall_mem_cons.mp h
    have split : laterItems (item :: its) ++ ']' :: rest =
        ',' :: (item.chars ++ (laterItems its ++ ']' :: rest)) := by
      simp [laterItems]
    have longer : (laterItems (item :: its)).length =
        item.chars.length + 1 + (laterItems its).length := by
      rw [laterItems, List.flatMap_cons, List.length_append, List.length_cons, laterItems]
    obtain ⟨fuel, rfl⟩ : ∃ f, fuel = f + 1 := ⟨fuel - 1, by omega⟩
    have more : (skipSpace (item.chars ++ (laterItems its ++ ']' :: rest))).head? ≠ some ']' := by
      obtain ⟨c, cs, hc, -, hne⟩ := chars_start plain
      rw [skipSpace_chars plain, hc]
      exact fun he => hne (Option.some.inj he)
    have comma : skipSpace (',' :: (item.chars ++ (laterItems its ++ ']' :: rest))) =
        ',' :: (item.chars ++ (laterItems its ++ ']' :: rest)) := rfl
    have here : value fuel d (item.chars ++ (laterItems its ++ ']' :: rest)) =
        (item.tree, laterItems its ++ ']' :: rest) :=
      back (by omega) (ends_laterItems its)
    have later : items fuel d false (laterItems its ++ ']' :: rest) =
        (Json.itemTrees its, true, rest) :=
      ih h (by omega)
    rw [split]
    simp [items, comma, more, here, later, Json.itemTrees]

theorem items_itemChars {d : Nat} {its : List Json} {fuel : Nat}
    (h : ∀ item ∈ its, Json.Plain d item ∧ ReadsBack d item)
    (hf : (Json.itemChars its).length < fuel) :
    items fuel d true (Json.itemChars its ++ ']' :: rest) = (Json.itemTrees its, true, rest) := by
  obtain ⟨fuel, rfl⟩ : ∃ f, fuel = f + 1 := ⟨fuel - 1, by omega⟩
  cases its with
  | nil => rfl
  | cons item its =>
    obtain ⟨⟨plain, back⟩, h⟩ := List.forall_mem_cons.mp h
    rw [itemChars_cons, List.length_append] at hf
    obtain ⟨c, cs, hc, -, hne⟩ := chars_start plain
    have short : 0 < item.chars.length := by
      rw [hc]
      exact Nat.succ_pos _
    rw [itemChars_cons, List.append_assoc, items, skipSpace_chars plain]
    split
    case h_1 heq =>
      rw [hc] at heq
      exact absurd (List.cons.inj heq).1 hne
    case h_2 =>
      simp only [if_true]
      rw [back (by omega) (ends_laterItems its), items_laterItems h (by omega)]
      rfl

theorem members_cons {d : Nat} {first : Bool} {key : String} {v : Json} {fuel : Nat}
    {others : List (Option String × Document)} {more : List Char} (back : ReadsBack d v)
    (he : Ends more) (hk : (Json.quote key).length ≤ fuel + 1) (hv : v.chars.length ≤ fuel)
    (later : members fuel d false more = (others, true, rest)) :
    members (fuel + 1) d first
        ((if first then [] else [',']) ++ (Json.quote key ++ ':' :: (v.chars ++ more))) =
      ((some key, v.tree) :: others, true, rest) := by
  have name := quotedText?_quote key (':' :: (v.chars ++ more)) hk
  have here := back hv he
  have quotation : Json.quote key ++ ':' :: (v.chars ++ more) =
      '"' :: (key.toList.flatMap Json.escape ++ '"' :: ':' :: (v.chars ++ more)) := by
    simp [Json.quote]
  have solid : ∀ c cs, isSpace c = false → skipSpace (c :: cs) = c :: cs := by
    intro c cs hc
    simp [skipSpace, hc]
  have quoteMark : isSpace '"' = false := rfl
  have comma : isSpace ',' = false := rfl
  have colon : isSpace ':' = false := rfl
  rw [quotation]
  cases first <;> simp [members, solid, quoteMark, comma, colon, name, here, later]

theorem members_laterMembers {d : Nat} {mems : List (String × Json)} {fuel : Nat}
    (h : ∀ e ∈ mems, ReadsBack d e.2) (hf : (laterMembers mems).length < fuel) :
    members fuel d false (laterMembers mems ++ '}' :: rest) =
      (Json.memberTrees mems, true, rest) := by
  induction mems generalizing fuel with
  | nil =>
    obtain ⟨fuel, rfl⟩ : ∃ f, fuel = f + 1 := ⟨fuel - 1, by omega⟩
    rfl
  | cons e mems ih =>
    obtain ⟨key, v⟩ := e
    obtain ⟨back, h⟩ := List.forall_mem_cons.mp h
    have split : laterMembers ((key, v) :: mems) ++ '}' :: rest =
        (if false then [] else [',']) ++
          (Json.quote key ++ ':' :: (v.chars ++ (laterMembers mems ++ '}' :: rest))) := by
      simp [laterMembers]
    have longer : (laterMembers ((key, v) :: mems)).length =
        (Json.quote key).length + 1 + v.chars.length + 1 + (laterMembers mems).length := by
      rw [laterMembers, List.flatMap_cons, laterMembers]
      simp only [List.length_append, List.length_cons]
      omega
    obtain ⟨fuel, rfl⟩ : ∃ f, fuel = f + 1 := ⟨fuel - 1, by omega⟩
    rw [split]
    exact members_cons back (ends_laterMembers mems) (by omega) (by omega) (ih h (by omega))

theorem members_memberChars {d : Nat} {mems : List (String × Json)} {fuel : Nat}
    (h : ∀ e ∈ mems, ReadsBack d e.2) (hf : (Json.memberChars mems).length < fuel) :
    members fuel d true (Json.memberChars mems ++ '}' :: rest) =
      (Json.memberTrees mems, true, rest) := by
  obtain ⟨fuel, rfl⟩ : ∃ f, fuel = f + 1 := ⟨fuel - 1, by omega⟩
  cases mems with
  | nil => rfl
  | cons e mems =>
    obtain ⟨key, v⟩ := e
    obtain ⟨back, h⟩ := List.forall_mem_cons.mp h
    have split : Json.memberChars ((key, v) :: mems) ++ '}' :: rest =
        (if true then [] else [',']) ++
          (Json.quote key ++ ':' :: (v.chars ++ (laterMembers mems ++ '}' :: rest))) := by
      simp [memberChars_cons]
    rw [memberChars_cons, List.length_append, List.length_append, List.length_cons] at hf
    rw [split]
    exact members_cons back (ends_laterMembers mems) (by omega) (by omega)
      (members_laterMembers h (by omega))

theorem readsBack_of_succ {d : Nat} {j : Json} (h : Json.Plain d j)
    (hs : ∀ {fuel : Nat} {rest : List Char}, j.chars.length ≤ fuel + 1 → Ends rest →
      value (fuel + 1) d (j.chars ++ rest) = (j.tree, rest)) : ReadsBack d j := by
  intro fuel rest hf he
  obtain ⟨c, cs, hc, -, -⟩ := chars_start h
  cases fuel with
  | zero =>
    rw [hc] at hf
    exact absurd hf (Nat.not_succ_le_zero _)
  | succ fuel => exact hs hf he

theorem value_digit {c : Char} {cs lexeme : List Char} (fuel d : Nat) (h : c.isDigit = true)
    (hn : number? (c :: cs) = some (lexeme, rest)) :
    value (fuel + 1) d (c :: cs) = (.number lexeme, rest) := by
  have other : ∀ x : Char, x.isDigit = false → c ≠ x := by
    rintro x hx rfl
    exact Bool.false_ne_true (hx.symm.trans h)
  have solid : isSpace c = false := by
    simp [isSpace, other ' ' rfl, other '\n' rfl, other '\t' rfl, other '\r' rfl]
  simp [value, skipSpace, solid, h, other 'n' rfl, other 't' rfl, other 'f' rfl, other '"' rfl,
    other '[' rfl, other '{' rfl, hn]

theorem readsBack {d : Nat} {j : Json} (h : Json.Plain d j) : ReadsBack d j := by
  induction h with
  | null => exact readsBack_of_succ .null fun _ _ => rfl
  | bool b =>
    refine readsBack_of_succ (.bool b) fun _ _ => ?_
    cases b <;> rfl
  | natural n =>
    refine readsBack_of_succ (.natural n) ?_
    intro fuel rest hf he
    have back := number?_toDigits n he
    obtain ⟨c, cs, hc⟩ := List.exists_cons_of_ne_nil (Nat.toDigits_ne_nil (b := 10) (n := n))
    have digit := isDigit_toDigits n c (by rw [hc]; exact List.mem_cons_self)
    change value (fuel + 1) _ (Nat.toDigits 10 n ++ rest) = (.number (Nat.toDigits 10 n), rest)
    rw [hc] at back ⊢
    rw [List.cons_append] at back ⊢
    exact value_digit fuel _ digit back
  | text s =>
    refine readsBack_of_succ (.text s) ?_
    intro fuel rest hf he
    have back := quotedText?_quote s rest hf
    simp [Json.chars, Json.quote, value, skipSpace, isSpace, back, Json.tree]
  | @list d its h ih =>
    refine readsBack_of_succ (.list h) ?_
    intro fuel rest hf he
    have longer : (Json.itemChars its).length < fuel := by
      simp [Json.chars] at hf
      omega
    have back : items fuel d true (Json.itemChars its ++ ']' :: rest) =
        (Json.itemTrees its, true, rest) :=
      items_itemChars (fun item hm => ⟨h item hm, ih item hm⟩) longer
    simp [Json.chars, value, skipSpace, isSpace, back, Json.tree, buryAt]
  | @object d mems h ih =>
    refine readsBack_of_succ (.object h) ?_
    intro fuel rest hf he
    have longer : (Json.memberChars mems).length < fuel := by
      simp [Json.chars] at hf
      omega
    have back : members fuel d true (Json.memberChars mems ++ '}' :: rest) =
        (Json.memberTrees mems, true, rest) :=
      members_memberChars ih longer
    simp [Json.chars, value, skipSpace, isSpace, back, Json.tree, buryAt]

/-- Nothing of the compact text is left unread. -/
theorem ofText_render {j : Json} (h : Json.Plain maxDepth j) :
    ofText j.render = (j.tree, true) := by
  have back : value (2 * j.chars.length + 2) maxDepth (j.chars ++ []) = (j.tree, []) :=
    readsBack h (by omega) trivial
  rw [List.append_nil] at back
  unfold ofText
  rw [Json.render, String.toList_ofList]
  simp only [back]
  rfl

end Document

theorem readText_render {α : Type} [FromDocument α] {j : Json} (h : Json.Plain maxDepth j) :
    readText (α := α) j.render = read .exact j.tree := by
  unfold readText
  rw [Document.ofText_render h]
  cases hr : read (α := α) .exact j.tree <;> simp [hr]

end XcmTasks
