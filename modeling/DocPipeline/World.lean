import DocPipeline.Completion
import DocPipeline.Journal
import DocPipeline.Namespace.Heap

/-!
# The world that runs share

Processors and runs are values of their own; what they share is here: the
namespaces behind handles, the completion cells of callbacks, the queue of
deferred jobs, and the journal.
-/

namespace DocPipeline

structure Job where
  cell : Nat
  store : Namespace.Handle
  body : Program Completing Unit

structure World where
  heap : Namespace.Heap := {}
  cells : List Completion := []
  /-- Oldest first. -/
  jobs : List Job := []
  journal : Journal := []
  /-- How many pipelines have been sealed. -/
  sealings : Nat := 0

namespace World

instance : Inhabited World := ⟨{}⟩

def record (w : World) (e : Event) : World := { w with journal := w.journal ++ [e] }

/-! ## Namespaces -/

def data (w : World) (h : Namespace.Handle) : Namespace := w.heap.read h

def writeData (w : World) (h : Namespace.Handle) (ns : Namespace) : World :=
  { w with heap := w.heap.write h ns }

@[simp] theorem writeData_data (w : World) (h : Namespace.Handle) :
    w.writeData h (w.data h) = w := by
  rw [writeData, data, w.heap.write_read h]

def allocate (w : World) (ns : Namespace) : Namespace.Handle × World :=
  let (h, heap) := w.heap.alloc ns
  (h, { w with heap })

def fork (w : World) (h : Namespace.Handle) : Namespace.Handle × World :=
  w.allocate (w.data h)

/-! ## Completion cells -/

def cell (w : World) (id : Nat) : Completion := (w.cells[id]?).getD default

def setCell (w : World) (id : Nat) (c : Completion) : World :=
  { w with cells := w.cells.set id c }

def openCell (w : World) (c : Completion) : Nat × World :=
  (w.cells.length, { w with cells := w.cells ++ [c] })

def retain (w : World) (id : Nat) : World := w.setCell id (w.cell id).retain

def release (w : World) (id : Nat) : World := w.setCell id (w.cell id).release

def outcome? (w : World) (id : Nat) : Option (Except ProcessorError Document) :=
  (w.cell id).outcome?

/-! ## Running programs -/

def work (store : Namespace.Handle) : (op : Work.Op) → World → Work.Answer op × World
  | .data, w => (w.data store, w)
  | .insert key v, w =>
      ((w.data store).get? key, w.writeData store ((w.data store).insert key v))
  | .merge key v, w => ((), w.writeData store ((w.data store).merge key v))
  | .note v, w => ((), w.record (.noted v))

def completing (store : Namespace.Handle) (id : Nat) :
    (op : Completing.Op) → World → Completing.Answer op × World
  | .work op, w => w.work store op
  | .complete result, w =>
      let (answer, c) := (w.cell id).complete result
      (answer, w.setCell id c)
  | .inspect, w => ((w.cell id).view, w)

def calling (store : Namespace.Handle) (id : Nat) :
    (op : Calling.Op) → World → Calling.Answer op × World
  | .now op, w => w.completing store id op
  | .keep, w => ((), w.retain id)
  | .defer job, w =>
      let w := w.retain id
      ((), { w with jobs := w.jobs ++ [⟨id, store, job⟩] })

/-- Runs a program up to its end or its next suspension. -/
def resume {α : Type} (store : Namespace.Handle) :
    Program Suspending α → World → (α ⊕ Program Suspending α) × World
  | .done a, w => (.inl a, w)
  | .perform (.work op) next, w =>
      let (answer, w) := w.work store op
      resume store (next answer) w
  | .perform .suspend next, w => (.inr (next ()), w)

/-! ## Jobs -/

def runJob (w : World) (job : Job) : World :=
  (job.body.run (completing job.store job.cell) w).2.release job.cell

/-- Takes the oldest job off the queue and runs it. -/
def fire? (w : World) : Option World :=
  match w.jobs with
  | [] => none
  | job :: jobs => some ({ w with jobs }.runJob job)

theorem jobs_work (store : Namespace.Handle) (op : Work.Op) (w : World) :
    (w.work store op).2.jobs = w.jobs := by
  cases op <;> rfl

theorem jobs_completing (store : Namespace.Handle) (id : Nat) (op : Completing.Op)
    (w : World) : (w.completing store id op).2.jobs = w.jobs := by
  cases op with
  | work op => exact jobs_work store op w
  | _ => rfl

/-- A job leaves no further job. -/
theorem jobs_runJob (w : World) (job : Job) : (w.runJob job).jobs = w.jobs := by
  suffices ∀ (p : Program Completing Unit) (w : World),
      (p.run (completing job.store job.cell) w).2.jobs = w.jobs from this job.body w
  intro p
  induction p with
  | done a => exact fun _ => rfl
  | perform op next ih => exact fun w => (ih _ _).trans (jobs_completing _ _ op w)

theorem jobs_fire? {w w' : World} (h : w.fire? = some w') : w'.jobs = w.jobs.tail := by
  unfold fire? at h
  split at h
  · simp at h
  · next heq =>
    cases h
    rw [jobs_runJob, heq]
    rfl

/-- Fires jobs until the cell has an outcome; `false` if the queue ends before. -/
def await (id : Nat) (w : World) : Bool × World :=
  if (w.outcome? id).isSome then (true, w)
  else
    match _fired : w.fire? with
    | none => (false, w)
    | some w' => await id w'
termination_by w.jobs.length
decreasing_by
  rw [jobs_fire? _fired, List.length_tail]
  have nonempty : w.jobs ≠ [] := by
    intro empty
    simp [fire?, empty] at _fired
  have := List.length_pos_iff.2 nonempty
  omega

end World

end DocPipeline
