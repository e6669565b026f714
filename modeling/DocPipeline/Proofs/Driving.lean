import DocPipeline.Proofs.SerialRun

/-!
# Driving a call

Driving the processing of a file is driving the run within it, with parsing
before and compiling after; and so it is under any other schedule.  While a call
is driven it works on a store of its own; another namespace changes only if a job
that was left on it is fired.
-/

namespace DocPipeline

def Outcome.document? : Outcome → Option Document
  | .document d => some d
  | .file _ => none

def Outcome.file? : Outcome → Option File
  | .document _ => none
  | .file f => some f

/-- What a call ended with, read as the kind of thing that it gives. -/
def Outcome.reading {α : Type} (read? : Outcome → Option α) :
    Option (Except ProcessorError Outcome) → Option (Except ProcessorError α)
  | some (.ok outcome) => (read? outcome).map .ok
  | some (.error e) => some (.error e)
  | none => none

theorem Outcome.reading_map {α : Type} {read? : Outcome → Option α} {wrap : α → Outcome}
    (reads : ∀ a, read? (wrap a) = some a) (ended : Option (Except ProcessorError α)) :
    reading read? (ended.map (·.map wrap)) = ended := by
  rcases ended with _ | e | a
  · rfl
  · rfl
  · simp [reading, Except.map, reads]

/-- A run, driven by itself. -/
def Run.drive (run : Run) (w : World) : Option Settled × World :=
  let (ended, w) := (Call.running run).drive w
  (Outcome.reading Outcome.document? ended, w)

/-- The stages before and after a run over the transformers. -/
def Pipeline.around (p : Pipeline) (run : List Bound → Document → Option Settled × World)
    (file : File) (w : World) : Option (Except ProcessorError File) × World :=
  match p.parse file with
  | .error e => (some (.error e), w)
  | .ok tree =>
      let (ended, w) := run p.transformers ⟨tree, file⟩
      (ended.map (·.bind p.finish), w)

namespace Call

variable {call next : Call} {w v u : World} {result : Except ProcessorError Outcome}

theorem drive_eq (call : Call) (w : World) :
    call.drive w =
      match call.wake w with
      | (false, v) => (none, v)
      | (true, v) =>
          match call.poll v with
          | (.finished result, u) => (some result, u)
          | (.pending next, u) => next.drive u := by
  rw [drive]
  split
  · next woken => rw [woken]
  · next woken =>
    rw [woken]
    split <;> (next polled => simp only [polled])

theorem drive_of_stalled (woken : call.wake w = (false, v)) : call.drive w = (none, v) := by
  rw [drive_eq, woken]

theorem drive_of_finished (woken : call.wake w = (true, v))
    (polled : call.poll v = (.finished result, u)) : call.drive w = (some result, u) := by
  simp only [drive_eq call w, woken, polled]

theorem drive_of_pending (woken : call.wake w = (true, v))
    (polled : call.poll v = (.pending next, u)) : call.drive w = next.drive u := by
  simp only [drive_eq call w, woken, polled]

/-- Calls that wake and poll alike are driven alike. -/
theorem drive_congr {other : Call} (polled : ∀ w, call.poll w = other.poll w)
    (woken : ∀ w, call.wake w = other.wake w) (w : World) :
    call.drive w = other.drive w := by
  simp only [drive_eq call w, drive_eq other w, woken, polled]

theorem poll_of_finished {run : Run} {settled : Settled}
    (h : run.poll w = (.finished settled, v)) :
    (Call.running run).poll w = (.finished (settled.map .document), v) := by
  rw [poll, pollRun, h]
  cases settled <;> rfl

theorem poll_of_pending {run next : Run} (h : run.poll w = (.pending next, v)) :
    (Call.running run).poll w = (.pending (.running next), v) := by
  rw [poll, pollRun, h]

theorem poll_processing_of_finished {p : Pipeline} {run : Run} {settled : Settled}
    (h : run.poll w = (.finished settled, v)) :
    (Call.processing p run).poll w = (.finished ((settled.bind p.finish).map .file), v) := by
  rw [poll, pollProcess, h]
  cases settled <;> rfl

theorem poll_processing_of_pending {p : Pipeline} {run next : Run}
    (h : run.poll w = (.pending next, v)) :
    (Call.processing p run).poll w = (.pending (.processing p next), v) := by
  rw [poll, pollProcess, h]

theorem drive_processing (p : Pipeline) (run : Run) (w : World) :
    (Call.processing p run).drive w =
      (((run.drive w).1.map (·.bind p.finish)).map (·.map .file), (run.drive w).2) := by
  -- the induction is on how the run is driven; the processing takes the same steps
  rw [Run.drive]
  generalize hcall : Call.running run = call
  fun_induction Call.drive call w generalizing run with
  | case1 call w v woken =>
      subst hcall
      exact drive_of_stalled woken
  | case2 call w v woken finished u polled =>
      subst hcall
      have woken : (Call.processing p run).wake w = (true, v) := woken
      cases hpoll : run.poll v with
      | mk progress u =>
          cases progress with
          | finished settled =>
              rw [Call.poll_of_finished hpoll] at polled
              cases polled
              rw [drive_of_finished woken (poll_processing_of_finished hpoll)]
              cases settled <;> rfl
          | pending next =>
              rw [Call.poll_of_pending hpoll] at polled
              cases polled
  | case3 call w v woken next u polled ih =>
      subst hcall
      have woken : (Call.processing p run).wake w = (true, v) := woken
      cases hpoll : run.poll v with
      | mk progress u =>
          cases progress with
          | finished settled =>
              rw [Call.poll_of_finished hpoll] at polled
              cases polled
          | pending next =>
              rw [Call.poll_of_pending hpoll] at polled
              cases polled
              rw [drive_of_pending woken (poll_processing_of_pending hpoll)]
              exact ih next rfl

theorem poll_process_of_error {p : Pipeline} {file : File} {e : ProcessorError}
    (failed : p.parse file = .error e) (store : Namespace.Handle) (w : World) :
    (Call.process p store file).poll w = (.finished (.error e), w) := by
  rw [process, poll, failed]

theorem poll_process_of_ok {p : Pipeline} {file : File} {tree : Node}
    (parsed : p.parse file = .ok tree) (store : Namespace.Handle) (w : World) :
    (Call.process p store file).poll w =
      (Call.processing p ⟨store, p.transformers, .at ⟨tree, file⟩⟩).poll w := by
  rw [process, poll, parsed]
  rfl

theorem drive_process (p : Pipeline) (store : Namespace.Handle) (file : File) (w : World) :
    (Call.process p store file).drive w =
      let made := p.around (fun transformers d => Run.drive ⟨store, transformers, .at d⟩ w) file w
      (made.1.map (·.map .file), made.2) := by
  rw [Pipeline.around]
  cases parsed : p.parse file with
  | error e => exact drive_of_finished rfl (poll_process_of_error parsed store w)
  | ok tree =>
      rw [drive_congr (poll_process_of_ok parsed store) fun _ => rfl, drive_processing]

end Call

/-- A run that is finished by its first poll. -/
theorem Run.drive_of_finished {store : Namespace.Handle} {transformers : List Bound}
    {d : Document} {w v : World} {settled : Settled}
    (h : advance store transformers d w = (.finished settled, v)) :
    drive ⟨store, transformers, .at d⟩ w = (some settled, v) := by
  have polled : poll ⟨store, transformers, .at d⟩ w = (.finished settled, v) := h
  rw [drive, Call.drive_of_finished rfl (Call.poll_of_finished polled)]
  cases settled <;> rfl

/-! ## Under every schedule -/

namespace Call

variable {store : Namespace.Handle} {w v : World} {ms : List Interval} {events : Journal}

theorem ends_running_iff {run : Run} {settled : Settled} :
    Ends Call.poll store (.running run) w ms events (settled.map .document) v ↔
      Ends Run.poll store run w ms events settled v := by
  rw [ends_wrap_iff Call.running (·.map .document) poll_of_finished poll_of_pending]
  constructor
  · rintro ⟨settled', ends, same⟩
    have unique : settled = settled' := by
      cases settled <;> cases settled' <;> cases same <;> rfl
    exact unique ▸ ends
  · intro ends
    exact ⟨settled, ends, rfl⟩

theorem ends_processing_iff {p : Pipeline} {run : Run}
    {result : Except ProcessorError Outcome} :
    Ends Call.poll store (.processing p run) w ms events result v ↔
      ∃ settled, Ends Run.poll store run w ms events settled v ∧
        result = (settled.bind p.finish).map .file :=
  ends_wrap_iff (Call.processing p) (fun settled => (settled.bind p.finish).map .file)
    poll_processing_of_finished poll_processing_of_pending

theorem ends_process_iff {p : Pipeline} {own : Namespace.Handle} {file : File}
    {result : Except ProcessorError Outcome} :
    Ends Call.poll store (Call.process p own file) w ms events result v ↔
      match p.parse file with
      | .error e =>
          ∃ m, ms = [m] ∧ m.After store w ∧ events = [] ∧ result = .error e ∧ v = m.world
      | .ok tree =>
          ∃ settled, Ends Run.poll store ⟨own, p.transformers, .at ⟨tree, file⟩⟩ w ms events
              settled v ∧
            result = (settled.bind p.finish).map .file := by
  cases parsed : p.parse file with
  | error e => exact ends_finished_iff (poll_process_of_error parsed own)
  | ok tree =>
      have same := poll_process_of_ok parsed own
      exact Iff.trans ⟨.congr same, .congr fun w => (same w).symm⟩ ends_processing_iff

end Call

/-! ## What driving a call leaves alone -/

/--
What the namespace contains and the jobs that are left on it have changed only
if some of these jobs were fired.
-/
structure World.Spares (h : Namespace.Handle) (w v : World) : Prop where
  valid : v.heap.Valid h
  fired : ∃ fired, w.jobsOn h = fired ++ v.jobsOn h ∧ (fired = [] → v.data h = w.data h)

namespace World.Spares

variable {h store : Namespace.Handle} {cells : List Nat} {w v v' : World}

theorem refl (valid : w.heap.Valid h) : Spares h w w := ⟨valid, [], rfl, fun _ => rfl⟩

theorem confined (spares : Spares h w v) (change : Confined store cells v v')
    (other : h ≠ store) : Spares h w v' where
  valid := Nat.lt_of_lt_of_le spares.valid change.size
  fired := by
    rw [change.jobs h other, change.data h spares.valid other]
    exact spares.fired

theorem fire (spares : Spares h w v) (fired : v.fire? = some v') : Spares h w v' := by
  unfold World.fire? at fired
  split at fired
  · simp at fired
  · next job jobs queue =>
    cases fired
    have first : v.jobs[0]? = some job := by simp [queue]
    have dequeued : v.dequeue 0 = { v with jobs } := by simp [World.dequeue, queue]
    rw [← dequeued]
    by_cases own : job.store = h
    · obtain ⟨past, split, -⟩ := spares.fired
      have size := (confined_runJob (w := v.dequeue 0) job).size
      refine ⟨Nat.lt_of_lt_of_le spares.valid size, past ++ [job], ?_, ?_⟩
      · rw [split, List.append_assoc]
        simp [jobsOn, jobs_runJob, World.dequeue, queue, own]
      · simp
    · have other : h ≠ job.store := Ne.symm own
      exact (spares.confined (confined_dequeue first) other).confined (confined_runJob job) other

theorem await {id : Nat} (spares : Spares h w v) : Spares h w (v.await id).2 := by
  fun_induction World.await id v with
  | case1 v hsome => exact spares
  | case2 v _ _ => exact spares
  | case3 v _ v' fired ih => exact ih (spares.fire fired)

theorem wake {call : Call} (spares : Spares h w v) : Spares h w (call.wake v).2 := by
  unfold Call.wake
  split
  · exact spares
  · exact spares.await

theorem drive {call : Call} (works : call.store? = some store) (other : h ≠ store)
    (spares : Spares h w v) : Spares h w (call.drive v).2 := by
  fun_induction Call.drive call v with
  | case1 call v v' woken =>
      have asleep : Spares h w (call.wake v).2 := spares.wake
      rw [woken] at asleep
      exact asleep
  | case2 call v v' woken result u polled =>
      have awake : Spares h w (call.wake v).2 := spares.wake
      rw [woken] at awake
      have moved := Call.moved_poll (w := v') works
      rw [polled] at moved
      exact awake.confined moved.confined other
  | case3 call v v' woken next u polled ih =>
      have awake : Spares h w (call.wake v).2 := spares.wake
      rw [woken] at awake
      have moved := Call.moved_poll (w := v') works
      rw [polled] at moved
      exact ih (moved.kind next rfl).1 (awake.confined moved.confined other)

end World.Spares

end DocPipeline
