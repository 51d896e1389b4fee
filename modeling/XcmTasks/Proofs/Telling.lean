import XcmTasks.Proofs.Json.Values

/-!
Texts for people that can be taken apart again. Names, numbers and byte strings are words, which end
where a character stands that no word has. What is put together from words between such characters,
as records, variants and lists are, tells all that the words tell.
-/

namespace XcmTasks

/-! ### Texts in front of others -/

def Stops (text : String) : Prop := text.toList.head?.all (!·.isAlphanum) = true

/-- The text begins with a character that no word has. -/
def Breaks (text : String) : Prop := text.toList.head?.any (!·.isAlphanum) = true

/-- Behind it no word goes on. -/
theorem Breaks.stops {text : String} (h : Breaks text) (rest : String) : Stops (text ++ rest) := by
  unfold Breaks at h
  unfold Stops
  rw [String.toList_append]
  cases hl : text.toList with
  | nil => simp [hl] at h
  | cons c cs => simpa [hl] using h

theorem takeWhile_word {w rest : List Char} (hw : ∀ c ∈ w, c.isAlphanum = true)
    (hr : rest.head?.all (!·.isAlphanum) = true) : (w ++ rest).takeWhile Char.isAlphanum = w := by
  rw [List.takeWhile_append_of_pos hw]
  cases rest with
  | nil => simp
  | cons c rest =>
    have ends : c.isAlphanum = false := by simpa using hr
    simp [ends]

theorem word_append_inj {w w' : String} {r s : String}
    (hw : ∀ c ∈ w.toList, c.isAlphanum = true) (hw' : ∀ c ∈ w'.toList, c.isAlphanum = true)
    (hr : Stops r) (hs : Stops s) (h : w ++ r = w' ++ s) : w = w' ∧ r = s := by
  have chars := congrArg String.toList h
  rw [String.toList_append, String.toList_append] at chars
  have fronts := congrArg (List.takeWhile Char.isAlphanum) chars
  rw [takeWhile_word hw hr, takeWhile_word hw' hs] at fronts
  obtain rfl := String.toList_inj.mp fronts
  exact ⟨rfl, (String.append_right_inj w).mp h⟩

section
variable {α β γ δ : Type}

/-- In front of a text where no word goes on, `f` tells what `g` does, and where it ends. -/
def Tells (f : α → String) (g : α → β) : Prop :=
  ∀ ⦃a b : α⦄ ⦃r s : String⦄, Stops r → Stops s → f a ++ r = f b ++ s → g a = g b ∧ r = s

/-- The same in front of any text. -/
def Closed (f : α → String) (g : α → β) : Prop :=
  ∀ ⦃a b : α⦄ ⦃r s : String⦄, f a ++ r = f b ++ s → g a = g b ∧ r = s

variable {f : α → String} {g : α → β} {f' : γ → String} {g' : γ → δ}

theorem Closed.tells (h : Closed f g) : Tells f g := fun _ _ _ _ _ _ same => h same

theorem tells_word (word : ∀ a, ∀ c ∈ (f a).toList, c.isAlphanum = true)
    (inj : ∀ a b, f a = f b → g a = g b) : Tells f g := by
  intro a b r s hr hs h
  obtain ⟨same, rest⟩ := word_append_inj (word a) (word b) hr hs h
  exact ⟨inj a b same, rest⟩

theorem Tells.of (h : Tells f g) {x : γ → α} (hx : ∀ c c', g (x c) = g (x c') → g' c = g' c') :
    Tells (fun c => f (x c)) g' := by
  intro c c' r s hr hs same
  obtain ⟨told, rest⟩ := h hr hs same
  exact ⟨hx c c' told, rest⟩

theorem Tells.and (h : Tells f g) (h' : Tells f' g') {sep : String} (hsep : Breaks sep) :
    Tells (fun p : α × γ => f p.1 ++ sep ++ f' p.2) (Prod.map g g') := by
  intro p q r s hr hs same
  simp only [String.append_assoc] at same
  obtain ⟨left, rest⟩ := h (hsep.stops _) (hsep.stops _) same
  obtain ⟨right, ends⟩ := h' hr hs ((String.append_right_inj sep).mp rest)
  exact ⟨Prod.ext left right, ends⟩

theorem Tells.between (h : Tells f g) (before : String) {behind : String} (hb : Breaks behind) :
    Closed (fun a => before ++ f a ++ behind) g := by
  intro a b r s same
  simp only [String.append_assoc] at same
  obtain ⟨told, rest⟩ := h (hb.stops _) (hb.stops _) ((String.append_right_inj before).mp same)
  exact ⟨told, (String.append_right_inj behind).mp rest⟩

theorem Tells.after (h : Tells f g) (before : String) : Tells (fun a => before ++ f a) g := by
  intro a b r s hr hs same
  simp only [String.append_assoc] at same
  exact h hr hs ((String.append_right_inj before).mp same)

/-! ### Records and variants -/

theorem Tells.field (h : Tells f g) (name key : String) :
    Closed (fun a => describeRecord name [(key, f a)]) g := by
  have brace : Breaks " \x7d" := rfl
  have braced := (h.after (key ++ ": ")).between (name ++ " \x7b ") brace
  intro a b r s same
  apply braced
  simpa [describeRecord, String.append_assoc] using same

theorem Tells.fields (h : Tells f g) (h' : Tells f' g') (name key key' : String) :
    Closed (fun p : α × γ => describeRecord name [(key, f p.1), (key', f' p.2)])
      (Prod.map g g') := by
  have comma : Breaks ", " := rfl
  have brace : Breaks " \x7d" := rfl
  have pair := (h.after (key ++ ": ")).and (h'.after (key' ++ ": ")) comma
  have braced := pair.between (name ++ " \x7b ") brace
  intro p q r s same
  apply braced
  simpa [describeRecord, String.append_assoc] using same

theorem Tells.tuple (h : Tells f g) : Closed (fun a => "(" ++ f a ++ ")") g :=
  h.between "(" (show Breaks ")" from rfl)

theorem describeRecord_eq (name : String) (values : List (String × String)) :
    describeRecord name values = name ++ describeRecord "" values := by
  simp [describeRecord, String.append_assoc]

theorem tuple_eq {name front : String} (h : front = name ++ "(") (text : String) :
    front ++ text ++ ")" = name ++ ("(" ++ text ++ ")") := by
  rw [h]
  simp [String.append_assoc]

/-- The text of a variant is its name, and then what it has, if anything, behind a character that no
name has. -/
theorem tells_variants {variant contents : α → String} (hf : ∀ a, f a = variant a ++ contents a)
    (word : ∀ a, (variant a).toList.all Char.isAlphanum = true)
    (breaks : ∀ a, contents a = "" ∨ Breaks (contents a))
    (tells : ∀ ⦃a b r s⦄, variant a = variant b → contents a ++ r = contents b ++ s →
      Stops r → Stops s → g a = g b ∧ r = s) : Tells f g := by
  have stops (a : α) {r : String} (hr : Stops r) : Stops (contents a ++ r) := by
    rcases breaks a with empty | breaks
    · rw [empty, String.empty_append]
      exact hr
    · exact breaks.stops r
  intro a b r s hr hs same
  rw [hf, hf, String.append_assoc, String.append_assoc] at same
  obtain ⟨names, rest⟩ := word_append_inj (List.all_eq_true.mp (word a))
    (List.all_eq_true.mp (word b)) (stops a hr) (stops b hs) same
  exact tells names rest hr hs

/-! ### Lists -/

def Starts (text : String) : Prop := text.toList.head?.any Char.isAlphanum = true

theorem Starts.ne_of_breaks {text other : String} (h : Starts text) (ho : Breaks other)
    (rest rest' : String) : text ++ rest ≠ other ++ rest' := by
  intro same
  have heads := congrArg (fun s => s.toList.head?) same
  unfold Starts at h
  unfold Breaks at ho
  cases ht : text.toList with
  | nil => simp [ht] at h
  | cons c cs =>
    cases hl : other.toList with
    | nil => simp [hl] at ho
    | cons c' cs' =>
      simp only [String.toList_append, ht, hl, List.cons_append, List.head?_cons] at heads
      cases heads
      have word : c.isAlphanum = true := by simpa [ht] using h
      have none : c.isAlphanum = false := by simpa [hl] using ho
      rw [word] at none
      cases none

def laterTexts (texts : List String) : String :=
  texts.foldr (fun text rest => ", " ++ text ++ rest) "]"

theorem intercalate_cons (text : String) (texts : List String) :
    String.intercalate ", " (text :: texts) ++ "]" = text ++ laterTexts texts := by
  induction texts generalizing text with
  | nil => simp [laterTexts]
  | cons next texts ih =>
    rw [String.intercalate_cons_cons, String.append_assoc, ih]
    simp [laterTexts, String.append_assoc]

theorem breaks_laterTexts (texts : List String) : Breaks (laterTexts texts) := by
  cases texts with
  | nil => rfl
  | cons text texts => simp [Breaks, laterTexts]

theorem laterTexts_nil_ne (text : String) (texts : List String) (r s : String) :
    laterTexts [] ++ r ≠ laterTexts (text :: texts) ++ s := by
  intro same
  have heads := congrArg (fun t => t.toList.head?) same
  simp [laterTexts] at heads

theorem Tells.later (h : Tells f g) : Closed (fun as => laterTexts (as.map f)) (List.map g) := by
  intro as bs r s same
  induction as generalizing bs with
  | nil =>
    cases bs with
    | nil => exact ⟨rfl, (String.append_right_inj "]").mp same⟩
    | cons b bs => exact absurd same (laterTexts_nil_ne _ _ r s)
  | cons a as ih =>
    cases bs with
    | nil => exact absurd same.symm (laterTexts_nil_ne _ _ s r)
    | cons b bs =>
      simp only [List.map_cons, laterTexts, List.foldr_cons, String.append_assoc,
        String.append_right_inj] at same
      obtain ⟨told, rest⟩ := h ((breaks_laterTexts (as.map f)).stops r)
        ((breaks_laterTexts (bs.map f)).stops s) same
      obtain ⟨others, ends⟩ := ih rest
      exact ⟨List.cons_eq_cons.mpr ⟨told, others⟩, ends⟩

/-- A list of texts up to a bracket, when none of them begins as a bracket does. -/
theorem Tells.list (h : Tells f g) (starts : ∀ a, Starts (f a)) :
    Closed (fun as : List α => String.intercalate ", " (as.map f) ++ "]") (List.map g) := by
  have bracket : Breaks "]" := rfl
  intro as bs r s same
  cases as with
  | nil =>
    cases bs with
    | nil => exact ⟨rfl, by simpa using same⟩
    | cons b bs =>
      simp only [List.map_nil, String.intercalate_nil, String.empty_append, List.map_cons,
        intercalate_cons, String.append_assoc] at same
      exact absurd same.symm ((starts b).ne_of_breaks bracket _ _)
  | cons a as =>
    cases bs with
    | nil =>
      simp only [List.map_nil, String.intercalate_nil, String.empty_append, List.map_cons,
        intercalate_cons, String.append_assoc] at same
      exact absurd same ((starts a).ne_of_breaks bracket _ _)
    | cons b bs =>
      -- with a comma before them, both are lists that go on
      simp only [List.map_cons, intercalate_cons] at same
      have going_on := congrArg (", " ++ ·) same
      simp only [← String.append_assoc] at going_on
      have told := h.later
      exact @told (a :: as) (b :: bs) r s going_on

end

/-! ### Numbers and byte strings -/

theorem tells_number : Tells (fun n : Nat => toString n) id := by
  have digits (n : Nat) : (toString n).toList = Nat.toDigits 10 n := String.toList_ofList
  refine tells_word ?_ ?_
  · intro n c hc
    rw [digits] at hc
    have digit := Document.isDigit_toDigits n c hc
    simp [Char.isAlphanum, digit]
  · intro n m same
    have back := congrArg (fun s => Document.plainNatural? s.toList) same
    simp only [digits, Document.plainNatural?_toDigits] at back
    exact Option.some.inj back

theorem tells_toNat {α : Type} {toNat : α → Nat} (inj : ∀ ⦃m n⦄, toNat m = toNat n → m = n) :
    Tells (fun n => toString (toNat n)) id :=
  tells_number.of fun _ _ same => inj same

theorem isAlphanum_digit {n : Nat} (h : n < 16) : (Hex.digit n).isAlphanum = true := by
  have all : ∀ m < 16, (Hex.digit m).isAlphanum = true := by decide
  exact all n h

theorem tells_hex : Tells Hex.encode id := by
  refine tells_word ?_ ?_
  · intro bytes c hc
    have marked : (Hex.encode bytes).toList = '0' :: 'x' :: Hex.encodeChars bytes := by
      simp [Hex.encode, Hex.encodeBare]
    rw [marked] at hc
    rcases List.mem_cons.mp hc with rfl | hc
    · rfl
    rcases List.mem_cons.mp hc with rfl | hc
    · rfl
    obtain ⟨b, -, hc⟩ := List.mem_flatMap.mp hc
    have small := b.toNat_lt
    rcases List.mem_pair.mp hc with rfl | rfl
    · exact isAlphanum_digit (by omega)
    · exact isAlphanum_digit (by omega)
  · intro bytes bytes' same
    have back := congrArg Hex.decode same
    rw [Hex.decode_encode, Hex.decode_encode] at back
    exact Except.ok.inj back

theorem starts_number (n : Nat) : Starts (toString n) := by
  have digits : (toString n).toList = Nat.toDigits 10 n := String.toList_ofList
  have all := Document.isDigit_toDigits n
  unfold Starts
  rw [digits]
  cases hd : Nat.toDigits 10 n with
  | nil => exact absurd hd Nat.toDigits_ne_nil
  | cons c cs =>
    have digit : c.isDigit = true := all c (by rw [hd]; exact List.mem_cons_self)
    simp [Char.isAlphanum, digit]

theorem closed_bytes : Closed describeBytes id := by
  have byte : Tells (fun b : UInt8 => toString b.toNat) id :=
    tells_toNat fun _ _ => UInt8.toNat.inj
  intro as bs r s same
  simp only [describeBytes, String.append_assoc, String.append_right_inj] at same
  have told := byte.list (fun b => starts_number b.toNat)
  simpa using told (by simpa only [String.append_assoc] using same)

theorem closed_fixedBytes {n : Nat} : Closed (fun a : FixedBytes n => describeBytes a.toList) id :=
  fun _ _ _ _ same => (closed_bytes same).imp FixedBytes.ext id

end XcmTasks
