/-!
# Programs over an interface

A collaborator is a program: it performs operations of an interface one after
the other, each depending on the answers so far, and ends with a result.  What
it can do is exactly what its interface offers, and it always ends.  The same
program can be run against any handler that answers the operations.
-/

namespace DocPipeline

structure Interface where
  Op : Type
  Answer : Op → Type

inductive Program (I : Interface) (α : Type) : Type where
  | done (a : α)
  | perform (op : I.Op) (next : I.Answer op → Program I α)

namespace Program

variable {I J : Interface} {α β σ : Type}

def bind : Program I α → (α → Program I β) → Program I β
  | .done a, f => f a
  | .perform op next, f => .perform op fun answer => (next answer).bind f

instance : Monad (Program I) where
  pure := done
  bind := bind

def op (op : I.Op) : Program I (I.Answer op) := .perform op .done

/-- Runs against a handler that answers each operation and changes a state. -/
def run (handle : (op : I.Op) → σ → I.Answer op × σ) : Program I α → σ → α × σ
  | .done a, s => (a, s)
  | .perform op next, s =>
      let (answer, s) := handle op s
      (next answer).run handle s

/-- The same program over an interface that has these operations among its own. -/
def lift (embed : (op : I.Op) → Program J (I.Answer op)) : Program I α → Program J α
  | .done a => .done a
  | .perform op next => (embed op).bind fun answer => (next answer).lift embed

/-! ## What is left of a program -/

/-- The first program is what may be left of the second after some operations. -/
def Remains (p : Program I α) : Program I α → Prop
  | .done _ => False
  | .perform _ next => ∃ answer, p = next answer ∨ Remains p (next answer)

theorem remains_wf : WellFounded (Remains (I := I) (α := α)) := by
  refine ⟨fun q => ?_⟩
  induction q with
  | done a => exact ⟨_, fun _ h => h.elim⟩
  | perform op next ih =>
      refine ⟨_, fun p h => ?_⟩
      obtain ⟨answer, rfl | h⟩ := h
      · exact ih answer
      · exact (ih answer).inv h

end Program

end DocPipeline
