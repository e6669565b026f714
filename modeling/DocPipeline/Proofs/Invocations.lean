import DocPipeline.Proofs.SingleCompletion

/-!
# Invocations and failures of transformers

The journal tells of every invocation of a transformer, once, and nothing that a
transformer does itself adds to that.  One that fails at its step does so under
its own index and name.
-/

namespace DocPipeline

def Event.invoked? : Event → Option (Nat × String)
  | .invoked index plugin => some (index, plugin)
  | _ => none

def Journal.invoked (journal : Journal) : List (Nat × String) :=
  journal.filterMap Event.invoked?

def Bound.key (b : Bound) : Nat × String := (b.index, b.plugin)

/-! ## What the journal tells -/

namespace World

/-- The journal goes on with these invocations, and with no others. -/
def Invokes (w : World) (keys : List (Nat × String)) (w' : World) : Prop :=
  ∃ events, w'.journal = w.journal ++ events ∧ Journal.invoked events = keys

variable {store : Namespace.Handle} {id : Nat} {keys more : List (Nat × String)}
  {w v w' : World}

theorem Invokes.of_journal (same : w'.journal = w.journal) : w.Invokes [] w' :=
  ⟨[], by simp [same], rfl⟩

theorem Invokes.refl (w : World) : w.Invokes [] w := .of_journal rfl

theorem Invokes.trans (h : w.Invokes keys v) (h' : v.Invokes more w') :
    w.Invokes (keys ++ more) w' := by
  obtain ⟨events, hevents, rfl⟩ := h
  obtain ⟨events', hevents', rfl⟩ := h'
  refine ⟨events ++ events', ?_, ?_⟩
  · rw [hevents', hevents, List.append_assoc]
  · simp [Journal.invoked]

theorem Invokes.trans_quiet (h : w.Invokes keys v) (h' : v.Invokes [] w') :
    w.Invokes keys w' := by
  have both := h.trans h'
  rwa [List.append_nil] at both

theorem invokes_work (op : Work.Op) : w.Invokes [] (w.work store op).2 := by
  cases op with
  | note v => exact ⟨[.noted v], rfl, rfl⟩
  | _ => exact .of_journal rfl

theorem invokes_completing (op : Completing.Op) :
    w.Invokes [] (w.completing store id op).2 := by
  cases op with
  | work op => exact invokes_work op
  | _ => exact .of_journal rfl

theorem invokes_calling (op : Calling.Op) : w.Invokes [] (w.calling store id op).2 := by
  cases op with
  | now op => exact invokes_completing op
  | _ => exact .of_journal rfl

variable {α : Type}

theorem invokes_run_work (p : Program Work α) :
    w.Invokes [] (p.run (World.work store) w).2 :=
  p.run_preserves (fun op _ h => h.trans_quiet (invokes_work op)) (.refl w)

theorem invokes_resume (p : Program Suspending α) : w.Invokes [] (w.resume store p).2 := by
  induction p generalizing w with
  | done a => exact .refl w
  | perform op next ih =>
      cases op with
      | work op => exact (invokes_work op).trans_quiet (ih _)
      | suspend => exact .refl w

end World

namespace Bound

variable {b : Bound} {store : Namespace.Handle} {w : World}

/-- What is concluded from the return of a closure concerns nothing but cells. -/
theorem conclude_cells (b : Bound) (id : Nat) (returned : Except Cause Unit) (w : World) :
    (b.conclude id returned w).2 = { w with cells := (b.conclude id returned w).2.cells } := by
  unfold conclude
  dsimp only
  split
  · rfl
  · cases returned with
    | ok done => rfl
    | error source =>
        dsimp only
        split <;> rfl

theorem invokes_invokeCallback (closure : Program Calling (Except Cause Unit)) :
    w.Invokes [] (b.invokeCallback store closure w).2 := by
  have entered : w.Invokes [] (b.entered w) := .of_journal rfl
  have ran : w.Invokes []
      (closure.run (World.calling store w.cells.length) (b.entered w)).2 :=
    closure.run_preserves (fun op _ h => h.trans_quiet (World.invokes_calling op)) entered
  rw [invokeCallback_eq, conclude_cells]
  exact ran.trans_quiet (.of_journal rfl)

theorem invokes_invoke (b : Bound) (store : Namespace.Handle) (d : Document) (w : World) :
    w.Invokes [b.key] (b.invoke store d w).2 := by
  have called : w.Invokes [b.key] (w.record (.invoked b.index b.plugin)) :=
    ⟨[.invoked b.index b.plugin], rfl, rfl⟩
  refine called.trans_quiet ?_
  unfold invoke
  cases b.transformer with
  | sync run => exact World.invokes_run_work _
  | async run => exact .refl _
  | future start => exact World.invokes_run_work _
  | callback run => exact invokes_invokeCallback _

/-! ## Failures -/

/-- The ways in which the step of a transformer can fail. -/
inductive Failure (b : Bound) : ProcessorError → Prop
  | transform (source : Cause) : Failure b (.transform b.index b.plugin source)
  | multiple : Failure b (.multipleCompletion b.index b.plugin)
  | abandoned : Failure b (.abandoned b.index b.plugin)

theorem failure_of_mapError {α : Type} {result : Except Cause α} {e : ProcessorError}
    (h : result.mapError b.failed = .error e) : b.Failure e := by
  cases result with
  | ok a => cases h
  | error source =>
      cases h
      exact .transform source

theorem failure_of_verdict {early later : List Attempt} {returned : Except Cause Unit}
    {handles : Nat} {e : ProcessorError}
    (h : b.verdict? early returned later handles = some (.error e)) : b.Failure e := by
  unfold verdict? at h
  split at h
  · cases h
    exact .multiple
  · cases h
    exact .multiple
  · cases h
    exact .transform _
  · exact failure_of_mapError (Option.some.inj h)
  · exact failure_of_mapError (Option.some.inj h)
  · split at h
    · cases h
      exact .abandoned
    · simp at h

theorem ready_of_announce {id : Nat} {verdict : Option Settled} {result : Settled}
    (h : announce id verdict = .ready result) : verdict = some result := by
  cases verdict with
  | none => simp [announce] at h
  | some settled => simpa [announce] using h

theorem failure_of_invoke {d : Document} {e : ProcessorError}
    (h : (b.invoke store d w).1 = .ready (.error e)) : b.Failure e := by
  unfold invoke at h
  cases style : b.transformer with
  | sync run =>
      simp only [style, Invocation.ready.injEq] at h
      exact failure_of_mapError h
  | async run => simp [style] at h
  | future start => simp [style] at h
  | callback run =>
      simp only [style] at h
      rw [(b.invokeCallback_tells store (run d) _).2] at h
      exact failure_of_verdict (ready_of_announce h)

end Bound

end DocPipeline
