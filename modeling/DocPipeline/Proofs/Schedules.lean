import DocPipeline.Proofs.Lifetime
import DocPipeline.Proofs.System
import DocPipeline.Proofs.Writes

/-!
# Schedules

A call is polled time and again, and between the polls the world goes on: jobs
fire in any order, holders of handles to completion cells make calls, and
anything else may happen that leaves the cells alone.  What is recorded of the
time up to a poll are the writes to a store, the calls on cells, and the world
that the poll finds.
-/

namespace DocPipeline

/-! ## Calls made by jobs -/

namespace Completing

def attempt? : Program.Step Completing → Option Attempt
  | ⟨.complete result, answer⟩ => some ⟨result, answer⟩
  | _ => none

def attempts (steps : List (Program.Step Completing)) : List Attempt :=
  steps.filterMap attempt?

end Completing

/-- What a cell was called with, given all calls with their cells. -/
def callsOn (cell : Nat) (calls : List (Nat × Completed)) : List Completed :=
  (calls.filter fun call => call.1 = cell).map Prod.snd

theorem callsOn_append (cell : Nat) (calls more : List (Nat × Completed)) :
    callsOn cell (calls ++ more) = callsOn cell calls ++ callsOn cell more := by
  simp [callsOn]

namespace World

def jobCalls (w : World) (job : Job) : List (Nat × Completed) :=
  (Completing.attempts (job.body.trace (completing job.store job.cell) w)).map fun attempt =>
    (job.cell, attempt.result)

/-! ## Between two polls -/

/-- The store may be written to and cells may be opened, but those there are stay as they are. -/
structure Others (store : Namespace.Handle) (w : World) (writes : List Write) (v : World) :
    Prop where
  written : Written store w writes v
  kept : ∀ id, id < w.cells.length → v.cells[id]? = w.cells[id]?

/--
The world goes on, with these writes to the store and these calls on cells.  A
handle to a cell is used, copied or dropped only while there is one.
-/
inductive GoesOn (store : Namespace.Handle) :
    World → List Write → List (Nat × Completed) → World → Prop
  | refl (w) : GoesOn store w [] [] w
  | fire {w k job writes calls v} (found : w.jobs[k]? = some job)
      (rest : GoesOn store ((w.dequeue k).runJob job) writes calls v) :
      GoesOn store w ((w.dequeue k).jobWrites store job ++ writes)
        ((w.dequeue k).jobCalls job ++ calls) v
  | call {w cell writes calls v} (result : Completed) (held : 0 < (w.cell cell).handles)
      (rest : GoesOn store (w.completing store cell (.complete result)).2 writes calls v) :
      GoesOn store w writes ((cell, result) :: calls) v
  | clone {w cell writes calls v} (held : 0 < (w.cell cell).handles)
      (rest : GoesOn store (w.retain cell) writes calls v) : GoesOn store w writes calls v
  | drop {w cell writes calls v} (held : 0 < (w.cell cell).handles)
      (rest : GoesOn store (w.release cell) writes calls v) : GoesOn store w writes calls v
  | elsewhere {w first u writes calls v} (others : Others store w first u)
      (rest : GoesOn store u writes calls v) : GoesOn store w (first ++ writes) calls v

variable {store : Namespace.Handle} {w v : World} {writes : List Write}
  {calls : List (Nat × Completed)} {cell index handles : Nat} {plugin : String}
  {closed : Bool} {attempts : List Attempt}

theorem GoesOn.written (h : GoesOn store w writes calls v) : Written store w writes v := by
  induction h with
  | refl w => exact .refl w
  | @fire w k job writes calls v found rest ih =>
      have dequeued : Written store w [] (w.dequeue k) := .of_heap rfl
      exact (dequeued.trans (written_runJob job)).trans ih
  | @call w cell writes calls v result held rest ih =>
      exact (written_completing store cell (.complete result)).trans ih
  | @clone w cell writes calls v held rest ih =>
      have cloned : Written store w [] (w.retain cell) := .of_heap rfl
      exact cloned.trans ih
  | @drop w cell writes calls v held rest ih =>
      have dropped : Written store w [] (w.release cell) := .of_heap rfl
      exact dropped.trans ih
  | elsewhere others rest ih => exact others.written.trans ih

/-! ## What becomes of a cell -/

theorem Tells.setCell_of_ne {other : Nat} {c : Completion} (ne : other ≠ cell)
    (told : w.Tells cell index plugin closed attempts handles) :
    (w.setCell other c).Tells cell index plugin closed attempts handles :=
  told.congr (by simp [World.setCell, List.getElem?_set_ne ne])

theorem Tells.completing (told : w.Tells cell index plugin closed attempts handles)
    (store : Namespace.Handle) (op : Completing.Op) :
    (w.completing store cell op).2.Tells cell index plugin closed
      (attempts ++ Completing.attempts [⟨op, (w.completing store cell op).1⟩]) handles := by
  have uncalled := told
  rw [← List.append_nil attempts] at uncalled
  cases op with
  | work op => exact uncalled.congr (congrArg (·[cell]?) (cells_work store op w))
  | complete result => exact told.complete store result
  | inspect => exact uncalled

theorem Tells.run {α : Type} (told : w.Tells cell index plugin closed attempts handles)
    (store : Namespace.Handle) (p : Program Completing α) :
    (p.run (World.completing store cell) w).2.Tells cell index plugin closed
      (attempts ++ Completing.attempts (p.trace (World.completing store cell) w)) handles := by
  induction p generalizing w attempts with
  | done a =>
      rw [← List.append_nil attempts] at told
      exact told
  | perform op next ih =>
      have later := ih (w.completing store cell op).1 (told.completing store op)
      rw [List.append_assoc, Completing.attempts, Completing.attempts,
        ← List.filterMap_append] at later
      exact later

theorem tells_runJob (job : Job) (told : w.Tells cell index plugin closed attempts handles) :
    ∃ attempts' handles', (w.runJob job).Tells cell index plugin closed attempts' handles' ∧
      attempts'.map Attempt.result =
        attempts.map Attempt.result ++ callsOn cell (w.jobCalls job) := by
  by_cases own : job.cell = cell
  · subst own
    have ran := told.run job.store job.body
    have all : (w.jobCalls job).filter (fun call => call.1 = job.cell) = w.jobCalls job :=
      List.filter_eq_self.2 (by simp [jobCalls])
    refine ⟨_, _, ran.release, ?_⟩
    rw [callsOn, all, jobCalls, List.map_map, List.map_append]
    rfl
  · -- a job that has another cell works on that one only
    have kept := (confined_runJob job).kept cell told.1 (by simpa using Ne.symm own)
    refine ⟨attempts, handles, told.congr kept, ?_⟩
    simp [callsOn, jobCalls, own]

/-- A cell has got the calls made on it, in their order. -/
theorem GoesOn.tells (h : GoesOn store w writes calls v)
    (told : w.Tells cell index plugin closed attempts handles) :
    ∃ attempts' handles', v.Tells cell index plugin closed attempts' handles' ∧
      attempts'.map Attempt.result = attempts.map Attempt.result ++ callsOn cell calls := by
  induction h generalizing attempts handles with
  | refl w => exact ⟨attempts, handles, told, by simp [callsOn]⟩
  | @fire w k job writes calls v found rest ih =>
      have dequeued : (w.dequeue k).Tells cell index plugin closed attempts handles :=
        told.congr rfl
      obtain ⟨attempts', handles', ran, called⟩ := tells_runJob job dequeued
      obtain ⟨attempts'', handles'', left, later⟩ := ih ran
      refine ⟨attempts'', handles'', left, ?_⟩
      rw [later, called, callsOn_append, List.append_assoc]
  | @call w other writes calls v result held rest ih =>
      by_cases own : other = cell
      · subst own
        obtain ⟨attempts', handles', left, later⟩ := ih (told.complete store result)
        exact ⟨attempts', handles', left, by simpa [callsOn] using later⟩
      · obtain ⟨attempts', handles', left, later⟩ := ih (told.setCell_of_ne own)
        exact ⟨attempts', handles', left, by simpa [callsOn, own] using later⟩
  | @clone w other writes calls v held rest ih =>
      by_cases own : other = cell
      · subst own
        exact ih told.retain
      · exact ih (told.setCell_of_ne own)
  | @drop w other writes calls v held rest ih =>
      by_cases own : other = cell
      · subst own
        exact ih told.release
      · exact ih (told.setCell_of_ne own)
  | elsewhere others rest ih => exact ih (told.congr (others.kept cell told.1))

end World

/-! ## Schedules -/

/-- The time up to a poll, with the world that the poll finds. -/
structure Interval where
  writes : List Write
  calls : List (Nat × Completed)
  world : World

/-- The interval begins with the world. -/
def Interval.After (m : Interval) (store : Namespace.Handle) (w : World) : Prop :=
  World.GoesOn store w m.writes m.calls m.world

/--
Something that is polled comes to its end, with an interval before each poll.
The events are those recorded by the polls.
-/
inductive Ends {ρ α : Type} (poll : ρ → World → Poll ρ α × World) (store : Namespace.Handle) :
    ρ → World → List Interval → Journal → Except ProcessorError α → World → Prop
  | last {call w m result w'} (after : m.After store w)
      (polled : poll call m.world = (.finished result, w')) :
      Ends poll store call w [m] (m.world.since w') result w'
  | again {call w m next v ms events result w'} (after : m.After store w)
      (polled : poll call m.world = (.pending next, v))
      (later : Ends poll store next v ms events result w') :
      Ends poll store call w (m :: ms) (m.world.since v ++ events) result w'

section Polls

variable {ρ ρ' α β : Type} {poll : ρ → World → Poll ρ α × World}
  {poll' : ρ' → World → Poll ρ' β × World} {store : Namespace.Handle} {w v : World}
  {ms : List Interval} {events : Journal}

/-- What is polled within something else ends together with it. -/
theorem ends_wrap_iff (wrap : ρ → ρ') (f : Except ProcessorError α → Except ProcessorError β)
    (finished : ∀ {call result w v}, poll call w = (.finished result, v) →
      poll' (wrap call) w = (.finished (f result), v))
    (pending : ∀ {call next w v}, poll call w = (.pending next, v) →
      poll' (wrap call) w = (.pending (wrap next), v))
    {call : ρ} {result : Except ProcessorError β} :
    Ends poll' store (wrap call) w ms events result v ↔
      ∃ settled, Ends poll store call w ms events settled v ∧ result = f settled := by
  constructor
  · intro ends
    -- what is inside has been polled as often as what is outside
    generalize hwrap : wrap call = wrapped at ends
    induction ends generalizing call with
    | @last wrapped w m result v after polled =>
        subst hwrap
        rcases hpoll : poll call m.world with ⟨settled | next, u⟩
        · rw [finished hpoll] at polled
          cases polled
          exact ⟨settled, .last after hpoll, rfl⟩
        · rw [pending hpoll] at polled
          cases polled
    | @again wrapped w m next u ms events result v after polled later ih =>
        subst hwrap
        rcases hpoll : poll call m.world with ⟨settled | next, u⟩
        · rw [finished hpoll] at polled
          cases polled
        · rw [pending hpoll] at polled
          cases polled
          obtain ⟨settled, ends, same⟩ := ih rfl
          exact ⟨settled, .again after hpoll ends, same⟩
  · rintro ⟨settled, ends, rfl⟩
    induction ends with
    | last after polled => exact .last after (finished polled)
    | again after polled later ih => exact .again after (pending polled) ih

theorem Ends.congr {call other : ρ} {result : Except ProcessorError α}
    (same : ∀ w, poll call w = poll other w) (ends : Ends poll store call w ms events result v) :
    Ends poll store other w ms events result v := by
  cases ends with
  | last after polled => exact .last after ((same _).symm.trans polled)
  | again after polled later => exact .again after ((same _).symm.trans polled) later

theorem ends_finished_iff {call : ρ} {result settled : Except ProcessorError α}
    (finished : ∀ w, poll call w = (.finished settled, w)) :
    Ends poll store call w ms events result v ↔
      ∃ m, ms = [m] ∧ m.After store w ∧ events = [] ∧ result = settled ∧ v = m.world := by
  have nothing (w : World) : w.since w = [] := by simp [World.since]
  constructor
  · intro ends
    cases ends with
    | last after polled =>
        rw [finished] at polled
        cases polled
        exact ⟨_, rfl, after, nothing _, rfl, rfl⟩
    | again after polled later =>
        rw [finished] at polled
        cases polled
  · rintro ⟨m, rfl, after, rfl, rfl, rfl⟩
    have last := Ends.last after (finished m.world)
    rwa [nothing] at last

end Polls

/-! ## Driving -/

section Driving

variable (store : Namespace.Handle) {w v w' : World}

theorem World.goesOn_await {id : Nat} (woken : w.await id = (true, v)) :
    ∃ writes calls, World.GoesOn store w writes calls v := by
  fun_induction World.await id w with
  | case1 w hsome =>
      cases woken
      exact ⟨[], [], .refl _⟩
  | case2 w _ _ => simp at woken
  | case3 w _ u fired ih =>
      unfold World.fire? at fired
      split at fired
      · simp at fired
      · next job jobs queue =>
        cases fired
        have dequeued : w.dequeue 0 = { w with jobs } := by simp [World.dequeue, queue]
        obtain ⟨writes, calls, rest⟩ := ih woken
        rw [← dequeued] at rest
        exact ⟨_, _, .fire (by simp [queue]) rest⟩

theorem Call.after_wake {call : Call} (woken : call.wake w = (true, v)) :
    ∃ m : Interval, m.After store w ∧ m.world = v := by
  unfold Call.wake at woken
  split at woken
  · cases woken
    exact ⟨⟨[], [], w⟩, .refl w, rfl⟩
  · obtain ⟨writes, calls, rest⟩ := World.goesOn_await store woken
    exact ⟨⟨writes, calls, v⟩, rest, rfl⟩

/-- Driving a call is one of its schedules. -/
theorem Ends.of_drive {call : Call} {outcome : Except ProcessorError Outcome}
    (driven : call.drive w = (some outcome, w')) :
    ∃ ms events, Ends Call.poll store call w ms events outcome w' := by
  fun_induction Call.drive call w with
  | case1 => simp at driven
  | case2 call w v woken finished u polled =>
      cases driven
      obtain ⟨m, after, rfl⟩ := Call.after_wake store woken
      exact ⟨_, _, .last after polled⟩
  | case3 call w v woken next u polled ih =>
      obtain ⟨m, after, rfl⟩ := Call.after_wake store woken
      obtain ⟨ms, events, later⟩ := ih driven
      exact ⟨_, _, .again after polled later⟩

end Driving

end DocPipeline
