import Mathlib.Data.List.Induction
import XcmTasks.Adapter.Automation
import XcmTasks.Proofs.Adapter.Transfers

/-!
Fees that the origin chain tells. Its answer is an amount if it is a whole number of 64 bits, or the
digits of a number of 128 bits in a text. The text is read leniently: a plus sign may stand before
the digits, and the mark of hexadecimal ones may come several times.
-/

namespace XcmTasks

open Dialogue

/-! ### Digits -/

/-- Digits in a row, from the highest to the lowest, and the number that they stand for. -/
inductive Positional (base : Nat) : List Char → Nat → Prop where
  | nil : Positional base [] 0
  | snoc {cs : List Char} {n v : Nat} {c : Char} (h : Positional base cs n)
      (hv : Text.hexValue? c = some v) (hb : v < base) : Positional base (cs ++ [c]) (n * base + v)

def Denotes (base : Nat) (cs : List Char) (n : Nat) : Prop := cs ≠ [] ∧ Positional base cs n

section
variable {base n : Nat} {c : Char} {cs : List Char}

theorem positional_concat :
    Positional base (cs ++ [c]) n ↔
      ∃ m v, Positional base cs m ∧ Text.hexValue? c = some v ∧ v < base ∧ n = m * base + v := by
  refine ⟨?_, ?_⟩
  · intro h
    generalize whole : cs ++ [c] = l at h
    cases h with
    | nil => exact absurd whole (by simp)
    | snoc h hv hb =>
      obtain ⟨rfl, last⟩ := List.append_inj' whole rfl
      cases last
      exact ⟨_, _, h, hv, hb, rfl⟩
  · rintro ⟨m, v, h, hv, hb, rfl⟩
    exact .snoc h hv hb

theorem numberOf?_eq_some : Text.numberOf? base cs = some n ↔ Positional base cs n := by
  induction cs using List.reverseRecOn generalizing n with
  | nil =>
    refine ⟨?_, ?_⟩
    · intro h
      cases h
      exact .nil
    · intro h
      generalize none_left : ([] : List Char) = l at h
      cases h with
      | nil => rfl
      | snoc => exact absurd none_left (by simp)
  | append_singleton cs c ih =>
    have split : Text.numberOf? base (cs ++ [c]) = (Text.numberOf? base cs).bind fun m =>
        (Text.hexValue? c).bind fun v => if v < base then some (m * base + v) else none := by
      simp [Text.numberOf?]
    rw [split, positional_concat]
    simp only [Option.bind_eq_some_iff, ih, Option.ite_none_right_eq_some, Option.some_inj]
    grind

theorem Positional.digit (h : Positional base cs n) : ∀ c ∈ cs, (Text.hexValue? c).isSome := by
  induction h with
  | nil => exact fun c member => absurd member List.not_mem_nil
  | snoc _ hv _ ih =>
    intro c member
    rcases List.mem_append.mp member with before | last
    · exact ih c before
    · rw [List.mem_singleton.mp last, hv]
      rfl

theorem Denotes.digit (h : Denotes base (c :: cs) n) : (Text.hexValue? c).isSome :=
  h.2.digit c List.mem_cons_self

end

inductive Signed (base : Nat) : List Char → Nat → Prop where
  | bare {cs : List Char} {n : Nat} (h : Denotes base cs n) : Signed base cs n
  | plus {cs : List Char} {n : Nat} (h : Denotes base cs n) : Signed base ('+' :: cs) n

/-- Digits that stand for a number behind one or more marks of hexadecimal ones. The first mark has
been left out. -/
inductive Marked : List Char → Nat → Prop where
  | digits {cs : List Char} {n : Nat} (h : Signed 16 cs n) : Marked cs n
  | again {cs : List Char} {n : Nat} (h : Marked cs n) : Marked ('0' :: 'x' :: cs) n

/-- The amount that an answer is read as. -/
inductive TellsAmount : Json → UInt128 → Prop where
  | number {fee : UInt128} (h : fee.toNat < UInt64.size) : TellsAmount (.ofNat fee.toNat) fee
  | decimal {s : String} {fee : UInt128} (h : Signed 10 s.toList fee.toNat) :
      TellsAmount (.text s) fee
  | hexadecimal {s : String} {cs : List Char} {fee : UInt128} (hs : s.toList = '0' :: 'x' :: cs)
      (h : Marked cs fee.toNat) : TellsAmount (.text s) fee

/-- The amount that an answer spells: a number, digits, or hexadecimal digits behind one mark. -/
inductive SpellsAmount : Json → UInt128 → Prop where
  | number {fee : UInt128} (h : fee.toNat < UInt64.size) : SpellsAmount (.ofNat fee.toNat) fee
  | decimal {s : String} {fee : UInt128} (h : Denotes 10 s.toList fee.toNat) :
      SpellsAmount (.text s) fee
  | hexadecimal {s : String} {cs : List Char} {fee : UInt128} (hs : s.toList = '0' :: 'x' :: cs)
      (h : Denotes 16 cs fee.toNat) : SpellsAmount (.text s) fee

section
variable {base n : Nat} {cs : List Char} {fee : UInt128} {answer : Json}

theorem signed_plus : Signed base ('+' :: cs) n ↔ Denotes base cs n := by
  refine ⟨?_, .plus⟩
  intro h
  cases h with
  | bare h => exact absurd h.digit (by decide)
  | plus h => exact h

theorem signed_of_head (unsigned : cs.head? ≠ some '+') :
    Signed base cs n ↔ Denotes base cs n := by
  refine ⟨?_, .bare⟩
  intro h
  cases h with
  | bare h => exact h
  | plus => exact absurd rfl unsigned

theorem amountOfDigits?_eq_some :
    amountOfDigits? base cs = some fee ↔ Signed base cs fee.toNat := by
  have fits (digits : List Char) : (∃ n, Positional base digits n ∧ n < UInt128.size ∧
      BitVec.ofNat 128 n = fee) ↔ Positional base digits fee.toNat := by
    refine ⟨?_, ?_⟩
    · rintro ⟨n, h, small, rfl⟩
      rwa [toNat_bitVec_ofNat small]
    · intro h
      exact ⟨fee.toNat, h, fee.isLt, bitVec_ofNat_toNat fee⟩
  unfold amountOfDigits?
  by_cases signed : cs.head? = some '+'
  · obtain ⟨digits, rfl⟩ := List.head?_eq_some_iff.mp signed
    rw [signed_plus]
    simp [Option.bind_eq_some_iff, numberOf?_eq_some, fits, Denotes]
  · rw [signed_of_head signed]
    simp [signed, Option.bind_eq_some_iff, numberOf?_eq_some, fits, Denotes]

theorem not_signed_mark : ¬Signed base ('0' :: 'x' :: cs) n := by
  intro h
  cases h with
  | bare h =>
    have digit := h.2.digit 'x' (by simp)
    exact absurd digit (by decide)

theorem marked_mark : Marked ('0' :: 'x' :: cs) n ↔ Marked cs n := by
  refine ⟨?_, .again⟩
  intro h
  cases h with
  | digits h => exact absurd h not_signed_mark
  | again h => exact h

theorem amountOfMarked_eq_some :
    amountOfDigits? 16 (dropHexMarks cs) = some fee ↔ Marked cs fee.toNat := by
  fun_induction dropHexMarks cs with
  | case1 cs ih => rw [ih, marked_mark]
  | case2 cs unmarked =>
    rw [amountOfDigits?_eq_some]
    refine ⟨.digits, ?_⟩
    intro h
    cases h with
    | digits h => exact h
    | again => exact absurd rfl (unmarked _)

theorem amountOfNumber_eq_some {n : Nat} :
    amountOfJson? (.ofNat n) = some fee ↔ n = fee.toNat ∧ n < UInt64.size := by
  have wide : UInt64.size < UInt128.size := by decide
  change (if n < UInt64.size then some (BitVec.ofNat 128 n) else none) = some fee ↔ _
  rw [Option.ite_none_right_eq_some, Option.some_inj]
  refine ⟨?_, ?_⟩
  · rintro ⟨small, rfl⟩
    exact ⟨(toNat_bitVec_ofNat (Nat.lt_trans small wide)).symm, small⟩
  · rintro ⟨rfl, small⟩
    exact ⟨small, bitVec_ofNat_toNat fee⟩

theorem amountOfText_marked {s : String} (hs : s.toList = '0' :: 'x' :: cs) :
    amountOfJson? (.text s) = some fee ↔ Marked cs fee.toNat := by
  rw [← amountOfMarked_eq_some]
  simp [amountOfJson?, hs]

theorem amountOfText_unmarked {s : String} (hs : ∀ cs, s.toList ≠ '0' :: 'x' :: cs) :
    amountOfJson? (.text s) = some fee ↔ Signed 10 s.toList fee.toNat := by
  rw [← amountOfDigits?_eq_some]
  simp only [amountOfJson?]

theorem amountOfJson?_eq_some : amountOfJson? answer = some fee ↔ TellsAmount answer fee := by
  refine ⟨?_, ?_⟩
  · intro h
    match answer with
    | .number (.natural n) =>
      obtain ⟨rfl, small⟩ := amountOfNumber_eq_some.mp h
      exact .number small
    | .text s =>
      by_cases marked : ∃ cs, s.toList = '0' :: 'x' :: cs
      · obtain ⟨cs, hs⟩ := marked
        exact .hexadecimal hs ((amountOfText_marked hs).mp h)
      · exact .decimal ((amountOfText_unmarked (not_exists.mp marked)).mp h)
  · intro h
    cases h with
    | number small => exact amountOfNumber_eq_some.mpr ⟨rfl, small⟩
    | hexadecimal hs h => exact (amountOfText_marked hs).mpr h
    | @decimal s _ h =>
      refine (amountOfText_unmarked ?_).mpr h
      intro cs hs
      rw [hs] at h
      exact not_signed_mark h

theorem amountOfJson?_eq_none : amountOfJson? answer = none ↔ ∀ fee, ¬TellsAmount answer fee := by
  simp only [Option.eq_none_iff_forall_ne_some, ne_eq, amountOfJson?_eq_some]

theorem SpellsAmount.tells (h : SpellsAmount answer fee) : TellsAmount answer fee := by
  cases h with
  | number small => exact .number small
  | decimal h => exact .decimal (.bare h)
  | hexadecimal hs h => exact .hexadecimal hs (.digits (.bare h))

/-- The answer is a text with a plus sign in it, or one with two marks at its beginning. -/
def Lenient (answer : Json) : Prop :=
  ∃ s, answer = .text s ∧
    ('+' ∈ s.toList ∨ ∃ cs, s.toList = '0' :: 'x' :: '0' :: 'x' :: cs)

/-- Only a lenient text tells what it does not spell. -/
theorem TellsAmount.spells (h : TellsAmount answer fee) (strict : ¬Lenient answer) :
    SpellsAmount answer fee := by
  cases h with
  | number small => exact .number small
  | @decimal s _ h =>
    generalize hs : s.toList = cs at h
    cases h with
    | bare h => exact .decimal (hs.symm ▸ h)
    | plus => exact absurd ⟨s, rfl, .inl (by simp [hs])⟩ strict
  | @hexadecimal s cs _ hs h =>
    cases h with
    | again => exact absurd ⟨s, rfl, .inr ⟨_, hs⟩⟩ strict
    | digits h =>
      cases h with
      | bare h => exact .hexadecimal hs h
      | plus => exact absurd ⟨s, rfl, .inl (by simp [hs])⟩ strict

theorem Lenient.unspelled (h : Lenient answer) : ¬SpellsAmount answer fee := by
  obtain ⟨s, rfl, lenient⟩ := h
  have plain : ∀ c, (Text.hexValue? c).isSome → c ≠ '+' ∧ c ≠ 'x' := by
    intro c digit
    refine ⟨?_, ?_⟩ <;>
    · rintro rfl
      exact absurd digit (by decide)
  intro spelled
  cases spelled with
  | decimal h =>
    have digits := fun c member => plain c (h.2.digit c member)
    rcases lenient with sign | ⟨cs, hs⟩
    · exact (digits _ sign).1 rfl
    · exact (digits 'x' (by simp [hs])).2 rfl
  | hexadecimal hs h =>
    have digits := fun c member => plain c (h.2.digit c member)
    rw [hs] at lenient
    rcases lenient with sign | ⟨cs, twice⟩
    · exact (digits '+' (by simpa using sign)).1 rfl
    · cases twice
      exact (digits 'x' (by simp)).2 rfl

end

namespace Adapter

variable {a : Adapter} {link : Link} {t : Transcript}

def feeRequest (action : AutomationAction) (executions : UInt32) : Request :=
  .rpc "automationTime_getTimeAutomationFees" (.list [toJson action, toJson executions])

/-- What comes of an answer: the amount that it tells, or an error with the whole answer. -/
inductive Estimates (answer : Json) : Except AdapterError UInt128 → Prop where
  | told {fee : UInt128} (h : TellsAmount answer fee) : Estimates answer (.ok fee)
  | untold (h : ∀ fee, ¬TellsAmount answer fee) :
      Estimates answer
        (.error (.undecodable ("automation fee is not an amount: " ++ answer.render)))

theorem runs_automationFees (hl : a.link = some link) {action : AutomationAction}
    {executions : UInt32} {r : Except AdapterError UInt128} :
    Runs (a.automationFees action executions).run t r ↔
      (∃ e : NodeError, t = [⟨.send link (feeRequest action executions), .error e⟩] ∧
        r = .error (.ofNode e)) ∨
      ∃ answer : Json, t = [⟨.send link (feeRequest action executions), .ok answer⟩] ∧
        Estimates answer r := by
  unfold automationFees
  rw [requireLink_of_some hl, pure_bind, runs_send_bind]
  refine or_congr Iff.rfl ⟨?_, ?_⟩
  · rintro ⟨answer, t', rfl, h⟩
    cases told : amountOfJson? answer with
    | none =>
      simp only [told, runs_throw] at h
      obtain ⟨rfl, rfl⟩ := h
      exact ⟨answer, rfl, .untold (amountOfJson?_eq_none.mp told)⟩
    | some fee =>
      simp only [told, runs_except_pure] at h
      obtain ⟨rfl, rfl⟩ := h
      exact ⟨answer, rfl, .told (amountOfJson?_eq_some.mp told)⟩
  · rintro ⟨answer, rfl, h⟩
    refine ⟨answer, [], rfl, ?_⟩
    cases h with
    | told h =>
      rw [← amountOfJson?_eq_some] at h
      simp [h]
    | untold h =>
      rw [← amountOfJson?_eq_none] at h
      simp [h]

/-- The fee is the amount that the chain's answer tells, and an answer that tells none is an error.
What spells an amount tells it, and nothing but a plus sign or a second mark makes an answer tell
an amount that it does not spell. -/
theorem fee_told_by_answer (hl : a.link = some link) (action : AutomationAction)
    (executions : UInt32) :
    (∀ t r, Runs (a.automationFees action executions).run t r ↔
      (∃ e : NodeError, t = [⟨.send link (feeRequest action executions), .error e⟩] ∧
        r = .error (.ofNode e)) ∨
      ∃ answer : Json, t = [⟨.send link (feeRequest action executions), .ok answer⟩] ∧
        Estimates answer r) ∧
    ∀ answer fee, SpellsAmount answer fee ↔ TellsAmount answer fee ∧ ¬Lenient answer := by
  refine ⟨fun t r => runs_automationFees hl, ?_⟩
  intro answer fee
  refine ⟨?_, ?_⟩
  · intro spelled
    exact ⟨spelled.tells, fun lenient => lenient.unspelled spelled⟩
  · rintro ⟨told, strict⟩
    exact told.spells strict

/-- Zeros in front do not count, and the mark is a small letter. -/
theorem fee_told_by_answer_turing :
    Sample.linked.link = some Sample.line ∧
      Runs (Sample.linked.automationFees .xcmp 2).run
        [⟨.send Sample.line (feeRequest .xcmp 2), .ok (Json.text "00012")⟩] (.ok 12) ∧
      Runs (Sample.linked.automationFees .xcmp 2).run
        [⟨.send Sample.line (feeRequest .xcmp 2), .ok (Json.text "0X10")⟩]
        (.error (.undecodable
          ("automation fee is not an amount: " ++ (Json.text "0X10").render))) := by
  have ready : Sample.linked.link = some Sample.line := rfl
  obtain ⟨runs, -⟩ := fee_told_by_answer ready .xcmp 2
  have zeros : TellsAmount (.text "00012") 12 := amountOfJson?_eq_some.mp (by decide)
  have capital : ∀ fee, ¬TellsAmount (.text "0X10") fee := amountOfJson?_eq_none.mp (by decide)
  exact ⟨ready, (runs _ _).mpr (.inr ⟨_, rfl, .told zeros⟩),
    (runs _ _).mpr (.inr ⟨_, rfl, .untold capital⟩)⟩

theorem runs_of_told (hl : a.link = some link) {action : AutomationAction} {executions : UInt32}
    {answer : Json} {fee : UInt128} (told : TellsAmount answer fee)
    {r : Except AdapterError UInt128} :
    Runs (a.automationFees action executions).run
      [⟨.send link (feeRequest action executions), .ok answer⟩] r ↔ r = .ok fee := by
  have only : Runs (a.automationFees action executions).run
      [⟨.send link (feeRequest action executions), .ok answer⟩] (.ok fee) :=
    (runs_automationFees hl).mpr (.inr ⟨answer, rfl, .told told⟩)
  refine ⟨fun h => h.unique only, ?_⟩
  rintro rfl
  exact only

/-- Two texts that spell no amount are taken for one. -/
theorem unspelled_told :
    (∀ fee, ¬SpellsAmount (.text "0x0x10") fee) ∧ (∀ fee, ¬SpellsAmount (.text "+12") fee) ∧
      (∀ r, Runs (Sample.linked.automationFees .xcmp 2).run
        [⟨.send Sample.line (feeRequest .xcmp 2), .ok (Json.text "0x0x10")⟩] r ↔ r = .ok 16) ∧
      ∀ r, Runs (Sample.linked.automationFees .xcmp 2).run
        [⟨.send Sample.line (feeRequest .xcmp 2), .ok (Json.text "+12")⟩] r ↔ r = .ok 12 := by
  have ready : Sample.linked.link = some Sample.line := rfl
  have twice : Lenient (.text "0x0x10") := ⟨_, rfl, .inr ⟨['1', '0'], by decide⟩⟩
  have signed : Lenient (.text "+12") := ⟨_, rfl, .inl (by decide)⟩
  have sixteen : TellsAmount (.text "0x0x10") 16 := amountOfJson?_eq_some.mp (by decide)
  have twelve : TellsAmount (.text "+12") 12 := amountOfJson?_eq_some.mp (by decide)
  exact ⟨fun _ => twice.unspelled, fun _ => signed.unspelled, fun _ => runs_of_told ready sixteen,
    fun _ => runs_of_told ready twelve⟩

end Adapter

end XcmTasks
