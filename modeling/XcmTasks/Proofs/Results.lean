/-! Results of computations that may fail, taken apart. -/

namespace XcmTasks

variable {ε ε' α β : Type} {e : ε}

theorem bind_eq_ok {x : Except ε α} {f : α → Except ε β} {b : β} (h : x >>= f = .ok b) :
    ∃ a, x = .ok a ∧ f a = .ok b := by
  cases x with
  | error e => cases h
  | ok a => exact ⟨a, rfl, h⟩

theorem bind_eq_error {x : Except ε α} {f : α → Except ε β} (h : x >>= f = .error e) :
    x = .error e ∨ ∃ a, x = .ok a ∧ f a = .error e := by
  cases x with
  | error e' =>
    cases h
    exact .inl rfl
  | ok a => exact .inr ⟨a, rfl, h⟩

theorem mapError_eq_ok {x : Except ε α} {f : ε → ε'} {a : α} (h : x.mapError f = .ok a) :
    x = .ok a := by
  cases x with
  | error e => cases h
  | ok a' =>
    cases h
    rfl

theorem mapError_eq_error {x : Except ε α} {f : ε → ε'} {e' : ε'} (h : x.mapError f = .error e') :
    ∃ e, x = .error e ∧ f e = e' := by
  cases x with
  | error e =>
    cases h
    exact ⟨e, rfl, rfl⟩
  | ok a => cases h

theorem map_eq_ok {x : Except ε α} {f : α → β} {b : β} (h : f <$> x = .ok b) :
    ∃ a, x = .ok a ∧ f a = b := by
  cases x with
  | error e => cases h
  | ok a =>
    cases h
    exact ⟨a, rfl, rfl⟩

theorem eq_ok_of_toOption {x : Except ε α} {a : α} (h : x.toOption = some a) : x = .ok a := by
  cases x with
  | error e => cases h
  | ok a' => exact congrArg Except.ok (Option.some.inj h)

theorem foldlM_eq_error {f : β → α → Except ε β} {as : List α} {b : β}
    (h : as.foldlM f b = .error e) : ∃ b, ∃ a ∈ as, f b a = .error e := by
  induction as generalizing b with
  | nil => cases h
  | cons a as ih =>
    rw [List.foldlM_cons] at h
    rcases bind_eq_error h with ha | ⟨b', -, h⟩
    · exact ⟨b, a, List.mem_cons_self, ha⟩
    · obtain ⟨b, a, hm, ha⟩ := ih h
      exact ⟨b, a, List.mem_cons_of_mem _ hm, ha⟩

theorem mapM_eq_error {f : α → Except ε β} {as : List α} (h : as.mapM f = .error e) :
    ∃ a ∈ as, f a = .error e := by
  induction as with
  | nil => cases h
  | cons a as ih =>
    rw [List.mapM_cons] at h
    rcases bind_eq_error h with ha | ⟨b, -, h⟩
    · exact ⟨a, List.mem_cons_self, ha⟩
    · rcases bind_eq_error h with h | ⟨bs, -, h⟩
      · obtain ⟨a', hm, ha⟩ := ih h
        exact ⟨a', List.mem_cons_of_mem _ hm, ha⟩
      · cases h

theorem mapM_eq_ok {f : α → Except ε β} {as : List α} {bs : List β} (h : as.mapM f = .ok bs) :
    ∀ b ∈ bs, ∃ a ∈ as, f a = .ok b := by
  induction as generalizing bs with
  | nil =>
    cases h
    exact List.forall_mem_nil _
  | cons a as ih =>
    rw [List.mapM_cons] at h
    obtain ⟨b, hb, h⟩ := bind_eq_ok h
    obtain ⟨others, ho, h⟩ := bind_eq_ok h
    cases h
    refine List.forall_mem_cons.mpr ⟨⟨a, List.mem_cons_self, hb⟩, ?_⟩
    intro b' hb'
    obtain ⟨a', ha', hf⟩ := ih ho b' hb'
    exact ⟨a', List.mem_cons_of_mem _ ha', hf⟩

theorem exists_of_mapM_eq_ok {f : α → Except ε β} {as : List α} {bs : List β}
    (h : as.mapM f = .ok bs) : ∀ a ∈ as, ∃ b ∈ bs, f a = .ok b := by
  induction as generalizing bs with
  | nil => exact List.forall_mem_nil _
  | cons a as ih =>
    rw [List.mapM_cons] at h
    obtain ⟨b, hb, h⟩ := bind_eq_ok h
    obtain ⟨others, ho, h⟩ := bind_eq_ok h
    cases h
    refine List.forall_mem_cons.mpr ⟨⟨b, List.mem_cons_self, hb⟩, ?_⟩
    intro a' ha'
    obtain ⟨b', hb', hf⟩ := ih ho a' ha'
    exact ⟨b', List.mem_cons_of_mem _ hb', hf⟩

/-- The failure of all is that of the first one that fails. -/
theorem find?_of_mapM_eq_error {f : α → Except ε β} {as : List α} (h : as.mapM f = .error e) :
    ∃ a, as.find? (fun a => !(f a).toBool) = some a ∧ f a = .error e := by
  induction as with
  | nil => cases h
  | cons a as ih =>
    rw [List.mapM_cons] at h
    rw [List.find?_cons]
    rcases bind_eq_error h with here | ⟨b, here, h⟩
    · exact ⟨a, by simp [here, Except.toBool], here⟩
    · rcases bind_eq_error h with later | ⟨others, -, h⟩
      · have passed : (!(f a).toBool) = false := by simp [here, Except.toBool]
        rw [passed]
        exact ih later
      · cases h

theorem mapM_map_eq_ok {f : β → Except ε α} {g : α → β} {as : List α}
    (h : ∀ a ∈ as, f (g a) = .ok a) : (as.map g).mapM f = .ok as := by
  induction as with
  | nil => rfl
  | cons a as ih =>
    obtain ⟨ha, h⟩ := List.forall_mem_cons.mp h
    rw [List.map_cons, List.mapM_cons, ha, ih h]
    rfl

end XcmTasks
