import Mathlib.Data.List.Forall2
import XcmTasks.Text.LetterCase

/-!
Two notions of case. Texts that differ in nothing but the case of ASCII letters are the same once
they are in lower case by the Unicode mappings: these take both cases of such a letter to the same
character, and a sigma is final or not whatever the case of the letters around it.
-/

namespace XcmTasks.Text

/-- A capital ASCII letter and its small form. -/
def Small (c d : Char) : Prop := 65 ≤ c.toNat ∧ c.toNat ≤ 90 ∧ d.toNat = c.toNat + 32

def SameLetter (c d : Char) : Prop := c = d ∨ Small c d ∨ Small d c

def SameButCase (s t : String) : Prop := List.Forall₂ SameLetter s.toList t.toList

variable {c d : Char} {cs ds before before' : List Char} {s t : String}

/-! ### ASCII letters -/

theorem toNat_ofNat {n : Nat} (h : n.isValidChar) : (Char.ofNat n).toNat = n := by
  unfold Char.ofNat
  rw [dif_pos h]
  rfl

theorem toNat_asciiLowerChar (c : Char) :
    (asciiLowerChar c).toNat =
      if 65 ≤ c.toNat ∧ c.toNat ≤ 90 then c.toNat + 32 else c.toNat := by
  have capital : ('A' ≤ c ∧ c ≤ 'Z') ↔ 65 ≤ c.toNat ∧ c.toNat ≤ 90 := Iff.rfl
  unfold asciiLowerChar
  by_cases h : 65 ≤ c.toNat ∧ c.toNat ≤ 90
  · have valid : (c.toNat + 32).isValidChar := .inl (by omega)
    rw [if_pos (capital.mpr h), if_pos h, toNat_ofNat valid]
  · rw [if_neg (mt capital.mp h), if_neg h]

theorem asciiLowerChar_eq_iff : asciiLowerChar c = asciiLowerChar d ↔ SameLetter c d := by
  rw [← Char.toNat_inj, toNat_asciiLowerChar, toNat_asciiLowerChar, SameLetter, Small, Small,
    ← Char.toNat_inj]
  split <;> split <;> omega

theorem forall₂_sameLetter_iff :
    List.Forall₂ SameLetter cs ds ↔ cs.map asciiLowerChar = ds.map asciiLowerChar := by
  rw [← List.forall₂_eq_eq_eq, List.forall₂_map_left_iff, List.forall₂_map_right_iff]
  simp only [asciiLowerChar_eq_iff]

theorem eqIgnoringCase_iff : eqIgnoringCase s t = true ↔ SameButCase s t := by
  unfold eqIgnoringCase asciiLowercase SameButCase
  rw [beq_iff_eq, String.ofList_inj, forall₂_sameLetter_iff]

/-- What does not tell the two cases of the 26 letters apart does not tell the same letters
apart. -/
theorem SameLetter.agree {α : Type} {f : Char → α} (h : SameLetter c d)
    (letters : ∀ n < 26, f (Char.ofNat (65 + n)) = f (Char.ofNat (97 + n))) : f c = f d := by
  have small {c d : Char} (hs : Small c d) : f c = f d := by
    obtain ⟨low, high, same⟩ := hs
    have both := letters (c.toNat - 65) (by omega)
    have hc : 65 + (c.toNat - 65) = c.toNat := by omega
    have hd : 97 + (c.toNat - 65) = d.toNat := by omega
    rwa [hc, hd, Char.ofNat_toNat, Char.ofNat_toNat] at both
  rcases h with rfl | h | h
  · rfl
  · exact small h
  · exact (small h).symm

/-! ### Unicode letters -/

theorem SameLetter.isCased (h : SameLetter c d) : isCased c = isCased d := h.agree (by decide)

theorem SameLetter.isCaseIgnorable (h : SameLetter c d) :
    isCaseIgnorable c = isCaseIgnorable d := h.agree (by decide)

theorem SameLetter.lowerChar (h : SameLetter c d) : lowerChar c = lowerChar d :=
  h.agree (by decide)

theorem SameLetter.sigma (h : SameLetter c d) : c = 'Σ' ↔ d = 'Σ' := by
  have same : decide (c = 'Σ') = decide (d = 'Σ') :=
    h.agree (f := fun c => decide (c = 'Σ')) (by decide)
  exact decide_eq_decide.mp same

theorem meetsCased_congr (h : List.Forall₂ SameLetter cs ds) : meetsCased cs = meetsCased ds := by
  induction h with
  | nil => rfl
  | @cons c d cs ds same _ ih =>
    unfold meetsCased at ih ⊢
    rw [List.dropWhile_cons, List.dropWhile_cons, same.isCaseIgnorable]
    by_cases skipped : isCaseIgnorable d = true
    · rw [if_pos skipped, if_pos skipped]
      exact ih
    · rw [if_neg skipped, if_neg skipped]
      exact same.isCased

theorem lowerFrom_congr (hb : List.Forall₂ SameLetter before before')
    (h : List.Forall₂ SameLetter cs ds) : lowerFrom before cs = lowerFrom before' ds := by
  induction h generalizing before before' with
  | nil => rfl
  | @cons c d cs ds same rest ih =>
    unfold lowerFrom
    simp only [same.sigma, same.lowerChar, meetsCased_congr hb, meetsCased_congr rest,
      ih (.cons same hb)]

theorem lowercase_congr (h : SameButCase s t) : lowercase s = lowercase t := by
  unfold lowercase
  rw [lowerFrom_congr .nil h]

end XcmTasks.Text
