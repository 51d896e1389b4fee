import XcmTasks.Dialogue

/-!
The runs of a program under all answers that it may get. A run is the list of what was asked and
answered, with the value that the program ends with. The answers of a run determine its value, and a
run of two programs one after the other is a run of each.
-/

namespace XcmTasks

namespace Dialogue

variable {Q : Type} {A : Q → Type} {α β ε ε' σ : Type}

/-- With some answers the program goes through these exchanges and ends with that value. -/
inductive Runs : Dialogue Q A α → List (Exchange Q A) → α → Prop where
  | done (a : α) : Runs (.done a) [] a
  | ask (question : Q) {next : A question → Dialogue Q A α} (reply : A question)
      {t : List (Exchange Q A)} {a : α} (rest : Runs (next reply) t a) :
      Runs (.ask question next) (⟨question, reply⟩ :: t) a

instance : LawfulMonad (Dialogue Q A) :=
  LawfulMonad.mk' _ bind_done (fun _ _ => rfl) bind_assoc

variable {t : List (Exchange Q A)} {a b : α}

@[simp] theorem runs_done : Runs (.done a : Dialogue Q A α) t b ↔ t = [] ∧ b = a := by
  refine ⟨?_, ?_⟩
  · intro h
    cases h
    exact ⟨rfl, rfl⟩
  · rintro ⟨rfl, rfl⟩
    exact .done _

@[simp] theorem runs_pure : Runs (pure a : Dialogue Q A α) t b ↔ t = [] ∧ b = a := runs_done

@[simp] theorem runs_question {q : Q} {reply : A q} :
    Runs (question q) t reply ↔ t = [⟨q, reply⟩] := by
  refine ⟨?_, ?_⟩
  · intro h
    cases h with
    | ask _ _ rest =>
      obtain ⟨rfl, rfl⟩ := runs_done.mp rest
      rfl
  · rintro rfl
    exact .ask q reply (.done reply)

theorem runs_exchanges (answer : (q : Q) → σ → A q × σ) (d : Dialogue Q A α) (s : σ) :
    Runs d (d.exchanges answer s) (d.run answer s).1 := by
  induction d generalizing s with
  | done a => exact .done a
  | ask question next ih => exact .ask question _ (ih _ _)

/-- A program that gets the same answers does the same. -/
theorem Runs.unique {d : Dialogue Q A α} (ha : Runs d t a) (hb : Runs d t b) : a = b := by
  induction ha with
  | done a => exact (runs_done.mp hb).2.symm
  | ask question reply _ ih =>
    cases hb with
    | ask _ _ rest => exact ih rest

theorem Runs.of_exchanges {answer : (q : Q) → σ → A q × σ} {d : Dialogue Q A α}
    {d' : Dialogue Q A β} {s : σ} {b : β} (h : Runs d' (d.exchanges answer s) b) :
    d'.exchanges answer s = d.exchanges answer s ∧ d'.run answer s = (b, (d.run answer s).2) := by
  induction d generalizing d' s with
  | done a =>
    cases h
    exact ⟨rfl, rfl⟩
  | ask question next ih =>
    cases h with
    | ask _ _ rest =>
      obtain ⟨asked, ended⟩ := ih _ rest
      exact ⟨congrArg _ asked, ended⟩

/-- Two programs that go through the same exchanges, to values that correspond, cannot be told apart
by what they ask. -/
theorem run_of_runs {d : Dialogue Q A α} {d' : Dialogue Q A β} {f : α → β}
    (h : ∀ t a, Runs d t a → Runs d' t (f a)) (answer : (q : Q) → σ → A q × σ) (s : σ) :
    d'.exchanges answer s = d.exchanges answer s ∧
      d'.run answer s = (f (d.run answer s).1, (d.run answer s).2) :=
  (h _ _ (runs_exchanges answer d s)).of_exchanges

theorem runs_bind {d : Dialogue Q A α} {f : α → Dialogue Q A β} {b : β} :
    Runs (d >>= f) t b ↔ ∃ t₁ t₂ a, Runs d t₁ a ∧ Runs (f a) t₂ b ∧ t = t₁ ++ t₂ := by
  change Runs (d.bind f) t b ↔ _
  induction d generalizing t with
  | done a =>
    refine ⟨?_, ?_⟩
    · intro h
      exact ⟨[], t, a, .done a, h, rfl⟩
    · rintro ⟨t₁, t₂, a', ha, hb, rfl⟩
      obtain ⟨rfl, rfl⟩ := runs_done.mp ha
      exact hb
  | ask question next ih =>
    refine ⟨?_, ?_⟩
    · intro h
      cases h with
      | ask _ reply rest =>
        obtain ⟨t₁, t₂, a, ha, hb, rfl⟩ := (ih reply).mp rest
        exact ⟨⟨question, reply⟩ :: t₁, t₂, a, .ask question reply ha, hb, rfl⟩
    · rintro ⟨t₁, t₂, a, ha, hb, rfl⟩
      cases ha with
      | ask _ reply rest => exact .ask question reply ((ih reply).mpr ⟨_, t₂, a, rest, hb, rfl⟩)

/-! ### Programs that may fail -/

theorem runs_except_bind {x : ExceptT ε (Dialogue Q A) α} {f : α → ExceptT ε (Dialogue Q A) β}
    {r : Except ε β} :
    Runs (x >>= f).run t r ↔
      (∃ e, Runs x.run t (.error e) ∧ r = .error e) ∨
        ∃ t₁ t₂ a, Runs x.run t₁ (.ok a) ∧ Runs (f a).run t₂ r ∧ t = t₁ ++ t₂ := by
  rw [ExceptT.run_bind, runs_bind]
  refine ⟨?_, ?_⟩
  · rintro ⟨t₁, t₂, a | a, hx, hf, rfl⟩
    · obtain ⟨rfl, rfl⟩ := runs_pure.mp hf
      exact .inl ⟨a, by simpa using hx, rfl⟩
    · exact .inr ⟨t₁, t₂, a, hx, hf, rfl⟩
  · rintro (⟨e, hx, rfl⟩ | ⟨t₁, t₂, a, hx, hf, rfl⟩)
    · exact ⟨t, [], .error e, hx, runs_pure.mpr ⟨rfl, rfl⟩, by simp⟩
    · exact ⟨t₁, t₂, .ok a, hx, hf, rfl⟩

@[simp] theorem runs_except_pure {r : Except ε α} :
    Runs (pure a : ExceptT ε (Dialogue Q A) α).run t r ↔ t = [] ∧ r = .ok a := runs_pure

theorem throw_bind {e : ε} {f : α → ExceptT ε (Dialogue Q A) β} :
    (throw e >>= f : ExceptT ε (Dialogue Q A) β) = throw e := rfl

theorem liftOk_bind {a : α} {f : α → ExceptT ε (Dialogue Q A) β} :
    (liftM (.ok a : Except ε α) >>= f : ExceptT ε (Dialogue Q A) β) = f a := rfl

theorem liftError_bind {e : ε} {f : α → ExceptT ε (Dialogue Q A) β} :
    (liftM (.error e : Except ε α) >>= f : ExceptT ε (Dialogue Q A) β) = throw e := rfl

@[simp] theorem runs_throw {e : ε} {r : Except ε α} :
    Runs (throw e : ExceptT ε (Dialogue Q A) α).run t r ↔ t = [] ∧ r = .error e := runs_pure

@[simp] theorem runs_liftExcept {x r : Except ε α} :
    Runs (liftM x : ExceptT ε (Dialogue Q A) α).run t r ↔ t = [] ∧ r = x := runs_pure

theorem runs_lift {d : Dialogue Q A α} {r : Except ε α} :
    Runs (liftM d : ExceptT ε (Dialogue Q A) α).run t r ↔ ∃ a, Runs d t a ∧ r = .ok a := by
  have unfolded : (liftM d : ExceptT ε (Dialogue Q A) α).run = d >>= fun a => pure (.ok a) := rfl
  rw [unfolded, runs_bind]
  refine ⟨?_, ?_⟩
  · rintro ⟨t₁, t₂, a, hd, hr, rfl⟩
    obtain ⟨rfl, rfl⟩ := runs_pure.mp hr
    exact ⟨a, by simpa using hd, rfl⟩
  · rintro ⟨a, hd, rfl⟩
    exact ⟨t, [], a, hd, runs_pure.mpr ⟨rfl, rfl⟩, by simp⟩

theorem runs_adapt {x : ExceptT ε (Dialogue Q A) α} {f : ε → ε'} {r : Except ε' α} :
    Runs (x.adapt f).run t r ↔ ∃ r', Runs x.run t r' ∧ r = r'.mapError f := by
  have unfolded : (x.adapt f).run = x.run >>= fun r' => pure (r'.mapError f) := rfl
  rw [unfolded, runs_bind]
  refine ⟨?_, ?_⟩
  · rintro ⟨t₁, t₂, r', hx, hr, rfl⟩
    obtain ⟨rfl, rfl⟩ := runs_pure.mp hr
    exact ⟨r', by simpa using hx, rfl⟩
  · rintro ⟨r', hx, rfl⟩
    exact ⟨t, [], r', hx, runs_pure.mpr ⟨rfl, rfl⟩, by simp⟩

end Dialogue

end XcmTasks
