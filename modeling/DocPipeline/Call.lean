import DocPipeline.Pipeline
import DocPipeline.Run

/-!
# Calls under way

A call is a run or the processing of a file, started and not finished.  It goes
on only when it is polled.  Driving polls a call until it finishes, and fires
deferred jobs whenever it sleeps; a call that sleeps with no job left is
stalled.
-/

namespace DocPipeline

inductive Outcome where
  | document (d : Document)
  | file (f : File)
  deriving DecidableEq

inductive Call where
  /-- The pipeline could not be sealed. -/
  | failed (e : ProcessorError)
  | running (run : Run)
  | parsing (pipeline : Pipeline) (store : Namespace.Handle) (file : File)
  | processing (pipeline : Pipeline) (run : Run)

namespace Call

def run (p : Pipeline) (store : Namespace.Handle) (d : Document) : Call :=
  .running ⟨store, p.transformers, .at d⟩

def process (p : Pipeline) (store : Namespace.Handle) (file : File) : Call :=
  .parsing p store file

def pollRun (run : Run) (w : World) : Poll Call Outcome × World :=
  match run.poll w with
  | (.finished (.ok d), w) => (.finished (.ok (.document d)), w)
  | (.finished (.error e), w) => (.finished (.error e), w)
  | (.pending run, w) => (.pending (.running run), w)

def pollProcess (p : Pipeline) (run : Run) (w : World) : Poll Call Outcome × World :=
  match run.poll w with
  | (.finished (.ok d), w) => (.finished ((p.finish d).map .file), w)
  | (.finished (.error e), w) => (.finished (.error e), w)
  | (.pending run, w) => (.pending (.processing p run), w)

def poll : Call → World → Poll Call Outcome × World
  | .failed e, w => (.finished (.error e), w)
  | .running run, w => pollRun run w
  | .parsing p store file, w =>
      match p.parse file with
      | .error e => (.finished (.error e), w)
      | .ok tree => pollProcess p ⟨store, p.transformers, .at ⟨tree, file⟩⟩ w
  | .processing p run, w => pollProcess p run w

def sleepsOn? : Call → Option Nat
  | .running run | .processing _ run => run.sleepsOn?
  | _ => none

/-- Fires jobs until the call can go on; `false` if it cannot. -/
def wake (call : Call) (w : World) : Bool × World :=
  match call.sleepsOn? with
  | none => (true, w)
  | some cell => w.await cell

end Call

/-! ## Polling gets somewhere -/

/-- Fewer transformers are left, or as many and less of a task. -/
def Run.Closer : Nat × Task → Nat × Task → Prop := Prod.Lex (· < ·) Program.Remains

theorem Run.closer_wf : WellFounded Run.Closer :=
  (Prod.lex ⟨_, Nat.lt_wfRel.wf⟩ ⟨_, Program.remains_wf⟩).wf

def Run.togo (run : Run) : Nat × Task :=
  match run.stage with
  | .task task => (run.rest.length, task)
  | _ => (run.rest.length, .done (.ok default))

theorem World.remains_of_resume {α : Type} {store : Namespace.Handle}
    {p q : Program Suspending α} {w w' : World} (h : w.resume store p = (.inr q, w')) :
    Program.Remains q p := by
  induction p generalizing w with
  | done a => simp [resume] at h
  | perform op next ih =>
      cases op with
      | work op => exact ⟨_, .inr (ih _ h)⟩
      | suspend =>
          simp only [resume, Prod.mk.injEq, Sum.inr.injEq] at h
          exact ⟨(), .inl h.1.symm⟩

theorem World.outcome_of_await {id : Nat} {w w' : World} (h : w.await id = (true, w')) :
    (w'.outcome? id).isSome = true := by
  fun_induction World.await id w with
  | case1 w hsome =>
      cases h
      exact hsome
  | case2 w _ _ => simp at h
  | case3 w _ _ _ ih => exact ih h

namespace Run

theorem rest_of_advance {store : Namespace.Handle} {rest : List Bound} {d : Document}
    {w w' : World} {run : Run} (h : advance store rest d w = (.pending run, w')) :
    run.rest.length < rest.length := by
  induction rest generalizing d w with
  | nil => simp [advance] at h
  | cons b rest ih =>
      simp only [advance] at h
      split at h
      · exact Nat.lt_succ_of_lt (ih h)
      · simp at h
      · cases h
        exact Nat.lt_succ_self _
      · split at h
        · exact Nat.lt_succ_of_lt (ih h)
        · simp at h
        · cases h
          exact Nat.lt_succ_self _

theorem closer_of_lt {run run' : Run} (h : run'.rest.length < run.rest.length) :
    Closer run'.togo run.togo := by
  unfold togo
  split <;> split <;> exact .left _ _ h

/-- A run that does not sleep gets somewhere when it is polled. -/
theorem closer_of_poll {run run' : Run} {w w' : World}
    (awake : ∀ cell, run.sleepsOn? = some cell → (w.outcome? cell).isSome = true)
    (h : run.poll w = (.pending run', w')) : Closer run'.togo run.togo := by
  unfold poll at h
  split at h
  · exact closer_of_lt (rest_of_advance h)
  · next task hstage =>
    split at h
    · exact closer_of_lt (rest_of_advance h)
    · simp at h
    · next hresume =>
      cases h
      simp only [togo, hstage]
      exact .right _ (World.remains_of_resume hresume)
  · next cell hstage =>
    split at h
    · exact closer_of_lt (rest_of_advance h)
    · simp at h
    · next hnone =>
      have := awake cell (by simp [sleepsOn?, hstage])
      simp [hnone] at this

end Run

namespace Call

def togo : Call → Nat × Task
  | .failed _ => (0, .done (.ok default))
  | .running run | .processing _ run => run.togo
  | .parsing p _ _ => (p.transformers.length + 1, .done (.ok default))

theorem awake_of_wake {call : Call} {w w' : World} (h : call.wake w = (true, w')) :
    ∀ cell, call.sleepsOn? = some cell → (w'.outcome? cell).isSome = true := by
  intro cell hcell
  simp only [wake, hcell] at h
  exact World.outcome_of_await h

theorem closer_of_poll {call call' : Call} {w w' : World}
    (awake : ∀ cell, call.sleepsOn? = some cell → (w.outcome? cell).isSome = true)
    (h : call.poll w = (.pending call', w')) : Run.Closer call'.togo call.togo := by
  cases call with
  | failed e => simp [poll] at h
  | running run =>
      simp only [poll, pollRun] at h
      split at h
      · simp at h
      · simp at h
      · next heq =>
        cases h
        exact Run.closer_of_poll awake heq
  | processing p run =>
      simp only [poll, pollProcess] at h
      split at h
      · simp at h
      · simp at h
      · next heq =>
        cases h
        exact Run.closer_of_poll awake heq
  | parsing p store file =>
      simp only [poll] at h
      split at h
      · simp at h
      · simp only [pollProcess, Run.poll] at h
        split at h
        · simp at h
        · simp at h
        · next run _ heq =>
          cases h
          have := Run.rest_of_advance heq
          simp only [togo, Run.togo]
          split <;> exact .left _ _ (Nat.lt_succ_of_lt this)

/-- Polls a call to its end; `none` if it is stalled. -/
def drive (call : Call) (w : World) :
    Option (Except ProcessorError Outcome) × World :=
  match _woken : call.wake w with
  | (false, w) => (none, w)
  | (true, w) =>
      match _polled : call.poll w with
      | (.finished result, w) => (some result, w)
      | (.pending call, w) => drive call w
termination_by Run.closer_wf.wrap call.togo
decreasing_by exact closer_of_poll (awake_of_wake _woken) _polled

end Call

end DocPipeline
