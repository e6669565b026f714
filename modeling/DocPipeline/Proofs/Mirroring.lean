import DocPipeline.Proofs.Confinement
import Mathlib.Data.List.Forall2

/-!
# The same run in two worlds

A run sees of the world only the contents of its namespace and the cells it has
opened.  In two worlds that agree on these it does the same, though the cells
bear other numbers: the run stays in step, and the worlds go on agreeing.
-/

namespace DocPipeline

/-! ## Agreeing worlds -/

structure Job.Twin (g h : Namespace.Handle) (ids : List Nat) (job job' : Job) : Prop where
  store : job'.store = h
  cell : ids[job'.cell]? = some job.cell
  body : job.body = job'.body

theorem linked_mono {ids ids' : List Nat} {c id : Nat} (longer : ids <+: ids')
    (link : ids[c]? = some id) : ids'[c]? = some id := by
  obtain ⟨more, rfl⟩ := longer
  exact getElem?_append_of_some link

theorem Job.Twin.mono {g h : Namespace.Handle} {ids ids' : List Nat} {job job' : Job}
    (twin : Job.Twin g h ids job job') (longer : ids <+: ids') :
    Job.Twin g h ids' job job' :=
  ⟨twin.store, linked_mono longer twin.cell, twin.body⟩

namespace World

/--
What there is of `g` in the first world is all that there is in the second one,
on `h`.  The `n`-th cell of the second world is the cell `ids[n]` of the first;
those that are foreign are none of them.
-/
structure Mirrors (foreign : Nat → Prop) (g h : Namespace.Handle) (ids : List Nat)
    (w v : World) : Prop where
  valid : w.heap.Valid g ∧ v.heap.Valid h
  data : w.data g = v.data h
  distinct : ids.Nodup
  length : ids.length = v.cells.length
  cells : ∀ (c id : Nat), ids[c]? = some id → id < w.cells.length ∧ w.cells[id]? = v.cells[c]?
  jobs : List.Forall₂ (Job.Twin g h ids) (w.jobsOn g) v.jobs
  apart : ∀ id, foreign id → id < w.cells.length ∧ id ∉ ids

variable {foreign : Nat → Prop} {g h store : Namespace.Handle} {cells ids : List Nat}
  {c id : Nat} {w w' v : World}

theorem Mirrors.cell (m : Mirrors foreign g h ids w v) (link : ids[c]? = some id) :
    w.cell id = v.cell c := by
  have same := (m.cells c id link).2
  simp only [World.cell, same]

theorem Mirrors.distant (m : Mirrors foreign g h ids w v) :
    Mirrors (fun id => id < w.cells.length ∧ id ∉ ids) g h ids w v :=
  { m with apart := fun _ far => far }

/-- Two ends that are the same but for the numbers of cells, some of them opened since. -/
def InStep {α β : Type} (foreign : Nat → Prop) (g h : Namespace.Handle) (ids : List Nat)
    (Same : List Nat → α → β → Prop) (left : α × World) (right : β × World) : Prop :=
  ∃ ids', ids <+: ids' ∧ Same ids' left.1 right.1 ∧
    Mirrors foreign g h ids' left.2 right.2

theorem InStep.after {α β : Type} {ids' : List Nat} {Same : List Nat → α → β → Prop}
    {left : α × World} {right : β × World} (longer : ids <+: ids')
    (step : InStep foreign g h ids' Same left right) :
    InStep foreign g h ids Same left right := by
  obtain ⟨ids'', longer', same, m⟩ := step
  exact ⟨ids'', longer.trans longer', same, m⟩

theorem Mirrors.confined (m : Mirrors foreign g h ids w v)
    (confined : Confined store cells w w') (other : store ≠ g)
    (disjoint : ∀ id ∈ cells, id ∉ ids) : Mirrors foreign g h ids w' v := by
  have grown := confined.grown
  constructor
  · refine ⟨?_, m.valid.2⟩
    have inside : g.address < w.heap.cells.length := m.valid.1
    exact Nat.lt_of_lt_of_le inside confined.size
  · rw [confined.data g m.valid.1 other.symm]
    exact m.data
  · exact m.distinct
  · exact m.length
  · intro c id link
    obtain ⟨inside, same⟩ := m.cells c id link
    have untouched : id ∉ cells := by
      intro hid
      exact disjoint id hid (List.mem_of_getElem? link)
    refine ⟨by omega, ?_⟩
    rw [confined.kept id inside untouched]
    exact same
  · rw [confined.jobs g other.symm]
    exact m.jobs
  · intro id far
    obtain ⟨inside, outside⟩ := m.apart id far
    exact ⟨by omega, outside⟩

/-! ## Staying in step -/

theorem Mirrors.writeData (m : Mirrors foreign g h ids w v) (ns : Namespace) :
    Mirrors foreign g h ids (w.writeData g ns) (v.writeData h ns) where
  valid := by
    simpa [Namespace.Heap.Valid, World.writeData, Namespace.Heap.write] using m.valid
  data := by
    simp [World.data, World.writeData, Namespace.Heap.read_write m.valid.1,
      Namespace.Heap.read_write m.valid.2]
  distinct := m.distinct
  length := m.length
  cells := m.cells
  jobs := m.jobs
  apart := m.apart

theorem Mirrors.record (m : Mirrors foreign g h ids w v) (e : Event) :
    Mirrors foreign g h ids (w.record e) (v.record e) :=
  ⟨m.valid, m.data, m.distinct, m.length, m.cells, m.jobs, m.apart⟩

theorem Mirrors.setCell (m : Mirrors foreign g h ids w v) (link : ids[c]? = some id)
    (x : Completion) : Mirrors foreign g h ids (w.setCell id x) (v.setCell c x) where
  valid := m.valid
  data := m.data
  distinct := m.distinct
  length := by simpa [World.setCell] using m.length
  cells := by
    intro c' id' link'
    obtain ⟨inside, same⟩ := m.cells c' id' link'
    refine ⟨by simpa [World.setCell] using inside, ?_⟩
    by_cases here : c' = c
    · subst here
      obtain rfl : id' = id := by simpa [link'] using link
      have inside' : c' < v.cells.length := by
        rw [← m.length]
        exact (List.getElem?_eq_some_iff.1 link').1
      simp [World.setCell, inside, inside']
    · -- distinct cells of the second world are distinct in the first
      have there : id' ≠ id := by
        intro hid
        subst hid
        have listed := (List.getElem?_eq_some_iff.1 link').1
        exact here ((List.getElem?_inj listed m.distinct).1 (link'.trans link.symm))
      simp [World.setCell, List.getElem?_set_ne (Ne.symm there),
        List.getElem?_set_ne (Ne.symm here), same]
  jobs := m.jobs
  apart := by simpa [World.setCell] using m.apart

theorem Mirrors.retain (m : Mirrors foreign g h ids w v) (link : ids[c]? = some id) :
    Mirrors foreign g h ids (w.retain id) (v.retain c) := by
  rw [World.retain, World.retain, m.cell link]
  exact m.setCell link _

theorem Mirrors.release (m : Mirrors foreign g h ids w v) (link : ids[c]? = some id) :
    Mirrors foreign g h ids (w.release id) (v.release c) := by
  rw [World.release, World.release, m.cell link]
  exact m.setCell link _

theorem Mirrors.openCell (m : Mirrors foreign g h ids w v) (x : Completion) :
    Mirrors foreign g h (ids ++ [w.cells.length]) (w.openCell x).2 (v.openCell x).2 where
  valid := m.valid
  data := m.data
  distinct := by
    rw [List.nodup_append]
    refine ⟨m.distinct, by simp, ?_⟩
    intro id hid other hother same
    obtain ⟨c, hc⟩ := List.mem_iff_getElem?.1 hid
    have inside := (m.cells c id hc).1
    rw [List.mem_singleton.1 hother] at same
    omega
  length := by simp [World.openCell, m.length]
  cells := by
    intro c id link
    by_cases old : c < ids.length
    · rw [List.getElem?_append_left old] at link
      obtain ⟨inside, same⟩ := m.cells c id link
      have inside' : c < v.cells.length := by
        rw [← m.length]
        exact old
      constructor
      · simp only [World.openCell, List.length_append, List.length_singleton]
        omega
      · simpa [World.openCell, List.getElem?_append_left inside,
          List.getElem?_append_left inside'] using same
    · have new : c = ids.length := by
        have listed := (List.getElem?_eq_some_iff.1 link).1
        simp only [List.length_append, List.length_singleton] at listed
        omega
      subst new
      have here : w.cells.length = id := by simpa using link
      subst here
      simp [World.openCell, m.length]
  jobs := m.jobs.imp fun _ _ twin => twin.mono (List.prefix_append _ _)
  apart := by
    intro id far
    obtain ⟨inside, outside⟩ := m.apart id far
    constructor
    · simp only [World.openCell, List.length_append, List.length_singleton]
      omega
    · intro hid
      rcases List.mem_append.1 hid with old | new
      · exact outside old
      · have here := List.mem_singleton.1 new
        omega

theorem Mirrors.leave (m : Mirrors foreign g h ids w v) (link : ids[c]? = some id)
    (body : Program Completing Unit) :
    Mirrors foreign g h ids { w with jobs := w.jobs ++ [⟨id, g, body⟩] }
      { v with jobs := v.jobs ++ [⟨c, h, body⟩] } where
  valid := m.valid
  data := m.data
  distinct := m.distinct
  length := m.length
  cells := m.cells
  jobs := by
    have twin : Job.Twin g h ids ⟨id, g, body⟩ ⟨c, h, body⟩ := ⟨rfl, link, rfl⟩
    have own : [(⟨id, g, body⟩ : Job)].filter (fun job => job.store = g) =
        [⟨id, g, body⟩] := by simp
    rw [World.jobsOn, List.filter_append, own]
    exact List.rel_append m.jobs (.cons twin .nil)
  apart := m.apart

/-! ## Operations -/

theorem Mirrors.work (m : Mirrors foreign g h ids w v) (op : Work.Op) :
    (w.work g op).1 = (v.work h op).1 ∧
      Mirrors foreign g h ids (w.work g op).2 (v.work h op).2 := by
  cases op with
  | data => exact ⟨m.data, m⟩
  | insert key value =>
      simp only [World.work, m.data]
      exact ⟨rfl, m.writeData _⟩
  | merge key value =>
      simp only [World.work, m.data]
      exact ⟨rfl, m.writeData _⟩
  | note value => exact ⟨rfl, m.record _⟩

theorem Mirrors.completing (m : Mirrors foreign g h ids w v) (link : ids[c]? = some id)
    (op : Completing.Op) :
    (w.completing g id op).1 = (v.completing h c op).1 ∧
      Mirrors foreign g h ids (w.completing g id op).2 (v.completing h c op).2 := by
  cases op with
  | work op => exact m.work op
  | complete result =>
      simp only [World.completing, m.cell link]
      exact ⟨rfl, m.setCell link _⟩
  | inspect =>
      simp only [World.completing, m.cell link]
      exact ⟨rfl, m⟩

theorem Mirrors.calling (m : Mirrors foreign g h ids w v) (link : ids[c]? = some id)
    (op : Calling.Op) :
    (w.calling g id op).1 = (v.calling h c op).1 ∧
      Mirrors foreign g h ids (w.calling g id op).2 (v.calling h c op).2 := by
  cases op with
  | now op => exact m.completing link op
  | keep => exact ⟨rfl, m.retain link⟩
  | defer body => exact ⟨rfl, (m.retain link).leave link body⟩

/-! ## Programs -/

variable {α : Type}

theorem Mirrors.resume (m : Mirrors foreign g h ids w v) (p : Program Suspending α) :
    (w.resume g p).1 = (v.resume h p).1 ∧
      Mirrors foreign g h ids (w.resume g p).2 (v.resume h p).2 := by
  induction p generalizing w v with
  | done a => exact ⟨rfl, m⟩
  | perform op next ih =>
      cases op with
      | suspend => exact ⟨rfl, m⟩
      | work op =>
          obtain ⟨answer, later⟩ := m.work op
          simp only [World.resume]
          rw [answer]
          exact ih _ later

theorem Mirrors.runJob (m : Mirrors foreign g h ids w v) {job job' : Job}
    (store : job.store = g) (twin : Job.Twin g h ids job job') :
    Mirrors foreign g h ids (w.runJob job) (v.runJob job') := by
  have ran := Program.run_simulates (fun op _ _ m => m.completing twin.cell op) job.body m
  rw [World.runJob, World.runJob, store, twin.store, ← twin.body]
  exact ran.2.release twin.cell

end World

/-! ## Invocations -/

inductive Invocation.Twin (ids : List Nat) : Invocation → Invocation → Prop
  | ready (result : Settled) : Twin ids (.ready result) (.ready result)
  | task (task : Task) : Twin ids (.task task) (.task task)
  | waiting {c id : Nat} (link : ids[c]? = some id) : Twin ids (.waiting id) (.waiting c)

namespace Bound

variable {b : Bound} {foreign : Nat → Prop} {g h : Namespace.Handle} {ids : List Nat}
  {w v : World}

theorem mirrors_conclude {c id : Nat} (m : World.Mirrors foreign g h ids w v)
    (link : ids[c]? = some id) (returned : Except Cause Unit) :
    Invocation.Twin ids (b.conclude id returned w).1 (b.conclude c returned v).1 ∧
      World.Mirrors foreign g h ids (b.conclude id returned w).2
        (b.conclude c returned v).2 := by
  have released := m.release link
  have twice := released.release link
  have cell := released.cell link
  have closed := (released.setCell link ((v.release c).cell c).close).release link
  unfold conclude
  simp only [cell]
  split
  · exact ⟨.ready _, twice⟩
  · cases returned with
    | error source =>
        dsimp only
        split
        · exact ⟨.ready _, twice⟩
        · exact ⟨.ready _, closed⟩
    | ok done =>
        refine ⟨?_, twice⟩
        have outcome : ((w.release id).release id).outcome? id =
            ((v.release c).release c).outcome? c := by
          rw [World.outcome?, World.outcome?, twice.cell link]
        simp only [outcome]
        cases ((v.release c).release c).outcome? c with
        | some result => exact .ready result
        | none => exact .waiting link

theorem mirrors_invokeCallback (m : World.Mirrors foreign g h ids w v)
    (closure : Program Calling (Except Cause Unit)) :
    Invocation.Twin (ids ++ [w.cells.length]) (b.invokeCallback g closure w).1
        (b.invokeCallback h closure v).1 ∧
      World.Mirrors foreign g h (ids ++ [w.cells.length]) (b.invokeCallback g closure w).2
        (b.invokeCallback h closure v).2 := by
  have opened := m.openCell { index := b.index, plugin := b.plugin, handles := 2 }
  have link : (ids ++ [w.cells.length])[v.cells.length]? = some w.cells.length := by
    simp [← m.length]
  have ran := Program.run_simulates (fun op _ _ m => m.calling link op) closure opened
  rw [invokeCallback_eq, invokeCallback_eq]
  have returned : b.returned g closure w = b.returned h closure v := ran.1
  rw [returned]
  exact mirrors_conclude ran.2 link _

theorem inStep_invoke (m : World.Mirrors foreign g h ids w v) (d : Document) :
    World.InStep foreign g h ids Invocation.Twin (b.invoke g d w) (b.invoke h d v) := by
  have recorded := m.record (.invoked b.index b.plugin)
  unfold invoke
  cases b.transformer with
  | sync run =>
      obtain ⟨result, later⟩ :=
        Program.run_simulates (fun op _ _ m => m.work op) (run d) recorded
      refine ⟨ids, List.prefix_rfl, ?_, later⟩
      dsimp only
      rw [result]
      exact .ready _
  | async run => exact ⟨ids, List.prefix_rfl, .task _, recorded⟩
  | future start =>
      obtain ⟨task, later⟩ :=
        Program.run_simulates (fun op _ _ m => m.work op) (start d) recorded
      refine ⟨ids, List.prefix_rfl, ?_, later⟩
      dsimp only
      rw [task]
      exact .task _
  | callback run =>
      obtain ⟨twin, later⟩ := mirrors_invokeCallback (b := b) recorded (run d)
      exact ⟨_, List.prefix_append _ _, twin, later⟩

end Bound

/-! ## Runs -/

inductive Stage.Twin (ids : List Nat) : Stage → Stage → Prop
  | at (d : Document) : Twin ids (.at d) (.at d)
  | task (task : Task) : Twin ids (.task task) (.task task)
  | waiting {c id : Nat} (link : ids[c]? = some id) : Twin ids (.waiting id) (.waiting c)

structure Run.Twin (g h : Namespace.Handle) (ids : List Nat) (run run' : Run) : Prop where
  store : run.store = g
  store' : run'.store = h
  rest : run.rest = run'.rest
  stage : Stage.Twin ids run.stage run'.stage

inductive Poll.Twin {ρ α : Type} (Same : ρ → ρ → Prop) : Poll ρ α → Poll ρ α → Prop
  | finished (result : Except ProcessorError α) : Twin Same (.finished result) (.finished result)
  | pending {run run' : ρ} (same : Same run run') : Twin Same (.pending run) (.pending run')

namespace Run

variable {foreign : Nat → Prop} {g h : Namespace.Handle} {ids : List Nat} {w v : World}

abbrev InStep (foreign : Nat → Prop) (g h : Namespace.Handle) (ids : List Nat) :
    Poll Run Document × World → Poll Run Document × World → Prop :=
  World.InStep foreign g h ids fun ids => Poll.Twin (Twin g h ids)

theorem inStep_advance (m : World.Mirrors foreign g h ids w v) (rest : List Bound)
    (d : Document) : InStep foreign g h ids (advance g rest d w) (advance h rest d v) := by
  -- every transformer may open a cell, so the numbering grows along the list
  induction rest generalizing d ids w v with
  | nil => exact ⟨ids, List.prefix_rfl, .finished _, m⟩
  | cons b rest ih =>
      obtain ⟨ids', longer, invoked, later⟩ := b.inStep_invoke m d
      simp only [advance]
      cases hw : b.invoke g d w with
      | mk left w' =>
      cases hv : b.invoke h d v with
      | mk right v' =>
      simp only [hw, hv] at invoked later ⊢
      cases invoked with
      | ready result =>
          cases result with
          | ok d => exact (ih later d).after longer
          | error e => exact ⟨ids', longer, .finished _, later⟩
      | waiting link =>
          exact ⟨ids', longer, .pending ⟨rfl, rfl, rfl, .waiting link⟩, later⟩
      | task task =>
          obtain ⟨same, resumed⟩ := later.resume task
          cases hw' : w'.resume g task with
          | mk left w'' =>
          cases hv' : v'.resume h task with
          | mk right v'' =>
          simp only [hw', hv'] at same resumed ⊢
          subst same
          rcases left with (e | d) | task
          · exact ⟨ids', longer, .finished _, resumed⟩
          · exact (ih resumed d).after longer
          · exact ⟨ids', longer, .pending ⟨rfl, rfl, rfl, .task task⟩, resumed⟩

theorem inStep_poll (m : World.Mirrors foreign g h ids w v) {run run' : Run}
    (twin : Twin g h ids run run') :
    InStep foreign g h ids (run.poll w) (run'.poll v) := by
  obtain ⟨store, rest, stage⟩ := run
  obtain ⟨store', rest', stage'⟩ := run'
  obtain ⟨rfl, rfl, rfl, same⟩ := twin
  simp only at same
  cases same with
  | «at» d => exact inStep_advance m rest d
  | task task =>
      obtain ⟨same, resumed⟩ := m.resume task
      simp only [poll]
      cases hw : w.resume store task with
      | mk left w' =>
      cases hv : v.resume store' task with
      | mk right v' =>
      simp only [hw, hv] at same resumed ⊢
      subst same
      rcases left with (e | d) | task
      · exact ⟨ids, List.prefix_rfl, .finished _, resumed⟩
      · exact inStep_advance resumed rest d
      · exact ⟨ids, List.prefix_rfl, .pending ⟨rfl, rfl, rfl, .task task⟩, resumed⟩
  | waiting link =>
      have outcome : w.outcome? _ = v.outcome? _ := congrArg Completion.outcome? (m.cell link)
      simp only [poll, outcome]
      split
      · exact inStep_advance m rest _
      · exact ⟨ids, List.prefix_rfl, .finished _, m⟩
      · exact ⟨ids, List.prefix_rfl, .pending ⟨rfl, rfl, rfl, .waiting link⟩, m⟩

end Run

/-! ## Processing -/

inductive Call.Twin (g h : Namespace.Handle) (ids : List Nat) : Call → Call → Prop
  | parsing (p : Pipeline) (file : File) : Twin g h ids (.parsing p g file) (.parsing p h file)
  | processing (p : Pipeline) {run run' : Run} (twin : Run.Twin g h ids run run') :
      Twin g h ids (.processing p run) (.processing p run')

namespace Call

variable {foreign : Nat → Prop} {g h : Namespace.Handle} {ids : List Nat} {w v : World}

abbrev InStep (foreign : Nat → Prop) (g h : Namespace.Handle) (ids : List Nat) :
    Poll Call Outcome × World → Poll Call Outcome × World → Prop :=
  World.InStep foreign g h ids fun ids => Poll.Twin (Twin g h ids)

theorem inStep_pollProcess (m : World.Mirrors foreign g h ids w v) (p : Pipeline)
    {run run' : Run} (twin : Run.Twin g h ids run run') :
    InStep foreign g h ids (pollProcess p run w) (pollProcess p run' v) := by
  obtain ⟨ids', longer, polled, later⟩ := Run.inStep_poll m twin
  simp only [pollProcess]
  cases hw : run.poll w with
  | mk left w' =>
  cases hv : run'.poll v with
  | mk right v' =>
  simp only [hw, hv] at polled later ⊢
  cases polled with
  | finished result => cases result <;> exact ⟨ids', longer, .finished _, later⟩
  | pending twin => exact ⟨ids', longer, .pending (.processing p twin), later⟩

theorem inStep_poll (m : World.Mirrors foreign g h ids w v) {call call' : Call}
    (twin : Twin g h ids call call') :
    InStep foreign g h ids (call.poll w) (call'.poll v) := by
  cases twin with
  | processing p twin => exact inStep_pollProcess m p twin
  | parsing p file =>
      simp only [poll]
      split
      · exact ⟨ids, List.prefix_rfl, .finished _, m⟩
      · next tree _ =>
        exact inStep_pollProcess m p ⟨rfl, rfl, rfl, .at ⟨tree, file⟩⟩

end Call

end DocPipeline
