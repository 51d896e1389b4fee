/-!
Programs that ask questions on their way to a value. A program is the tree of what it does after
each answer, so what it asks can be told apart from who answers.
-/

namespace XcmTasks

/-- A program that ends with a value, or asks and goes on with the answer. -/
inductive Dialogue (Q : Type) (A : Q → Type) (α : Type) where
  | done (a : α)
  | ask (question : Q) (next : A question → Dialogue Q A α)

abbrev Exchange (Q : Type) (A : Q → Type) := (question : Q) × A question

namespace Dialogue

variable {Q : Type} {A : Q → Type} {α β γ σ : Type}

def bind : Dialogue Q A α → (α → Dialogue Q A β) → Dialogue Q A β
  | done a, f => f a
  | ask question next, f => ask question fun answer => (next answer).bind f

instance : Monad (Dialogue Q A) where
  pure := done
  bind := bind

def question (q : Q) : Dialogue Q A (A q) := ask q done

/-- Lets a state answer, which each question may change. -/
def run (answer : (q : Q) → σ → A q × σ) : Dialogue Q A α → σ → α × σ
  | done a, s => (a, s)
  | ask question next, s =>
    let (reply, s) := answer question s
    run answer (next reply) s

/-- What is asked of a state and answered by it, in order. -/
def exchanges (answer : (q : Q) → σ → A q × σ) : Dialogue Q A α → σ → List (Exchange Q A)
  | done _, _ => []
  | ask question next, s =>
    let (reply, s) := answer question s
    ⟨question, reply⟩ :: exchanges answer (next reply) s

@[simp] theorem bind_done (d : Dialogue Q A α) : d.bind done = d := by
  induction d with
  | done a => rfl
  | ask question next ih => exact congrArg (ask question) (funext ih)

theorem bind_assoc (d : Dialogue Q A α) (f : α → Dialogue Q A β) (g : β → Dialogue Q A γ) :
    (d.bind f).bind g = d.bind fun a => (f a).bind g := by
  induction d with
  | done a => rfl
  | ask question next ih => exact congrArg (ask question) (funext ih)

end Dialogue

end XcmTasks
