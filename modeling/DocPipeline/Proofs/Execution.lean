import DocPipeline.Program

/-!
# Following a run

What each operation of a handler keeps, a whole run keeps.  The trace of a run
lists its operations with the answers they got.
-/

namespace DocPipeline.Program

variable {I : Interface} {α σ τ : Type}

abbrev Step (I : Interface) := Σ op : I.Op, I.Answer op

def trace (handle : (op : I.Op) → σ → I.Answer op × σ) :
    Program I α → σ → List (Step I)
  | .done _, _ => []
  | .perform op next, s =>
      let (answer, s) := handle op s
      ⟨op, answer⟩ :: (next answer).trace handle s

variable {handle : (op : I.Op) → σ → I.Answer op × σ}

theorem run_preserves {P : σ → Prop} (step : ∀ op s, P s → P (handle op s).2)
    (p : Program I α) {s : σ} (hs : P s) : P (p.run handle s).2 := by
  induction p generalizing s with
  | done a => exact hs
  | perform op next ih => exact ih _ (step op s hs)

theorem run_traced {P : List (Step I) → σ → Prop}
    (step : ∀ past op s, P past s → P (past ++ [⟨op, (handle op s).1⟩]) (handle op s).2)
    (p : Program I α) {past : List (Step I)} {s : σ} (hs : P past s) :
    P (past ++ p.trace handle s) (p.run handle s).2 := by
  induction p generalizing past s with
  | done a => simpa [trace, run] using hs
  | perform op next ih =>
      have later := ih (handle op s).1 (step past op s hs)
      rw [List.append_assoc] at later
      exact later

/-- Handlers that answer alike in related states take a program to related ends. -/
theorem run_simulates {R : σ → τ → Prop} {left : (op : I.Op) → σ → I.Answer op × σ}
    {right : (op : I.Op) → τ → I.Answer op × τ}
    (step : ∀ op s t, R s t →
      (left op s).1 = (right op t).1 ∧ R (left op s).2 (right op t).2)
    (p : Program I α) {s : σ} {t : τ} (h : R s t) :
    (p.run left s).1 = (p.run right t).1 ∧ R (p.run left s).2 (p.run right t).2 := by
  induction p generalizing s t with
  | done a => exact ⟨rfl, h⟩
  | perform op next ih =>
      obtain ⟨answer, later⟩ := step op s t h
      simp only [run]
      rw [answer]
      exact ih _ later

end DocPipeline.Program
