/-!
What an operation on a state comes to: an answer or an error, and in both cases the state that it
leaves behind.
-/

namespace MailMerge

/-- The answer of an operation, and the state after it, also after an error. -/
structure Outcome (σ ε α : Type) where
  answer : Except ε α
  state : σ

namespace Outcome

variable {σ τ ε α β : Type}

/-- Success with an answer. -/
def done (a : α) (s : σ) : Outcome σ ε α := ⟨.ok a, s⟩

/-- Failure. -/
def failed (e : ε) (s : σ) : Outcome σ ε α := ⟨.error e, s⟩

/-- Goes on with what was found without touching the state, or fails in the state `s`. -/
def check (found : Except ε β) (s : σ) (next : β → Outcome σ ε α) : Outcome σ ε α :=
  match found with
  | .ok b => next b
  | .error e => failed e s

/-- The same outcome within a larger state. -/
def within (f : σ → τ) (o : Outcome σ ε α) : Outcome τ ε α := ⟨o.answer, f o.state⟩

/-- The answer with the state after it; the state after an error is given up. -/
def toExcept (o : Outcome σ ε α) : Except ε (α × σ) := o.answer.map fun a => (a, o.state)

@[simp] theorem check_ok (b : β) (s : σ) (next : β → Outcome σ ε α) :
    check (.ok b) s next = next b := rfl

/-- An operation that changes nothing where it fails. -/
def Atomic (op : σ → Outcome σ ε α) : Prop :=
  ∀ s e, (op s).answer = .error e → (op s).state = s

end Outcome

/-- Changes the first element that satisfies `p`. -/
def modifyFirst {α : Type} (p : α → Bool) (f : α → α) : List α → List α
  | [] => []
  | a :: rest => if p a then f a :: rest else a :: modifyFirst p f rest

end MailMerge
