import DocPipeline.Proofs.Confinement

/-!
# Processors and calls, in any order

The processors of a program and the calls it has made share one world.  What is
done next may be done to any of them: processors are configured, frozen, copied
and given data, they run and process, calls are polled, and jobs are fired.
Each such action goes on within one namespace and some cells.
-/

namespace DocPipeline

structure System where
  world : World := {}
  processors : List Processor := []
  /-- The calls made so far, each with its result once it has finished. -/
  calls : List (Poll Call Outcome) := []
  /-- The forks on which files have been processed. -/
  forks : List Namespace.Handle := []

/-- Processors, calls and queued jobs are named by their places. -/
inductive Action where
  | new
  | use (processor : Nat) (what : Pluggable)
  | withParser (processor : Nat) (parser : Parser)
  | withCompiler (processor : Nat) (compiler : Compiler)
  | freeze (processor : Nat) (book : Book)
  | clone (processor : Nat)
  | copy (processor : Nat)
  | setData (processor : Nat) (key : String) (v : Value)
  | run (processor : Nat) (d : Document)
  | runSync (processor : Nat) (d : Document)
  | process (processor : Nat) (file : File)
  | processSync (processor : Nat) (file : File)
  | poll (call : Nat)
  | fire (job : Nat)

namespace World

def dequeue (w : World) (k : Nat) : World := { w with jobs := w.jobs.eraseIdx k }

variable {w : World} {k : Nat} {job : Job} {h : Namespace.Handle}

theorem jobs_split (found : w.jobs[k]? = some job) :
    w.jobs = w.jobs.take k ++ job :: w.jobs.drop (k + 1) := by
  obtain ⟨inside, rfl⟩ := List.getElem?_eq_some_iff.1 found
  rw [List.getElem_cons_drop, List.take_append_drop]

theorem jobsOn_split (found : w.jobs[k]? = some job) :
    w.jobsOn h = (w.jobs.take k).filter (fun job => job.store = h) ++
      (job :: w.jobs.drop (k + 1)).filter fun job => job.store = h := by
  rw [jobsOn, ← List.filter_append, ← jobs_split found]

theorem jobsOn_dequeue :
    (w.dequeue k).jobsOn h = (w.jobs.take k).filter (fun job => job.store = h) ++
      (w.jobs.drop (k + 1)).filter fun job => job.store = h := by
  simp [jobsOn, dequeue, List.eraseIdx_eq_take_drop_succ]

theorem confined_dequeue (found : w.jobs[k]? = some job) :
    Confined job.store [] w (w.dequeue k) where
  size := Nat.le_refl _
  data _ _ _ := rfl
  grown := Nat.le_refl _
  kept _ _ _ := rfl
  jobs h ne := by
    rw [jobsOn_split found, jobsOn_dequeue, List.filter_cons_of_neg (by simpa using ne.symm)]
  left _ h := .inl (List.mem_of_mem_eraseIdx h)

end World

namespace System

def on (s : System) (j : Nat) (f : Processor → System) : System :=
  match s.processors[j]? with
  | some p => f p
  | none => s

/-- Only a frozen processor runs and processes; any other has to be frozen before. -/
def onFrozen (s : System) (j : Nat) (f : Processor → System) : System :=
  s.on j fun p => if p.isFrozen then f p else s

def replace (s : System) (j : Nat) (changed : Processor × World) : System :=
  { s with processors := s.processors.set j changed.1, world := changed.2 }

def add (s : System) (made : Processor × World) : System :=
  { s with processors := s.processors ++ [made.1], world := made.2 }

/--
A processor is gone when its use of something fails.  A frozen one has nothing
left to attach and needs no book to run and process.
-/
def act : Action → System → System
  | .new, s => s.add (Processor.new s.world)
  | .use j what, s => s.on j fun p =>
      match p.use what s.world with
      | (.ok p, w) => s.replace j (p, w)
      | (.error _, w) => { s with world := w, processors := s.processors.eraseIdx j }
  | .withParser j parser, s => s.on j fun p => s.replace j (p.withParser parser, s.world)
  | .withCompiler j compiler, s =>
      s.on j fun p => s.replace j (p.withCompiler compiler, s.world)
  | .freeze j book, s => s.on j fun p => s.replace j (p.freeze book s.world).2
  | .clone j, s => s.on j fun p => s.add (p.clone s.world)
  | .copy j, s => s.on j fun p => s.add (p.copy s.world)
  | .setData j key v, s => s.on j fun p => { s with world := p.setData key v s.world }
  | .run j d, s => s.onFrozen j fun p =>
      let (call, changed) := p.run {} d s.world
      { s.replace j changed with calls := s.calls ++ [.pending call] }
  | .runSync j d, s => s.onFrozen j fun p => s.replace j (p.runSync {} d s.world).2
  | .process j file, s => s.onFrozen j fun p =>
      let (call, changed) := p.process {} file s.world
      { s.replace j changed with
        calls := s.calls ++ [.pending call]
        forks := s.forks ++ [(s.world.fork p.store).1] }
  | .processSync j file, s => s.onFrozen j fun p =>
      { s.replace j (p.processSync {} file s.world).2 with
        forks := s.forks ++ [(s.world.fork p.store).1] }
  | .poll i, s =>
      match s.calls[i]? with
      | some (.pending call) =>
          let (polled, w) := call.poll s.world
          { s with world := w, calls := s.calls.set i polled }
      | _ => s
  | .fire k, s =>
      match s.world.jobs[k]? with
      | some job => { s with world := (s.world.dequeue k).runJob job }
      | none => s

def run : List Action → System → System
  | [], s => s
  | action :: actions, s => run actions (s.act action)

theorem run_append (first second : List Action) (s : System) :
    s.run (first ++ second) = (s.run first).run second := by
  induction first generalizing s with
  | nil => rfl
  | cons action actions ih => exact ih _

def result? (s : System) (i : Nat) : Option (Except ProcessorError Outcome) :=
  match s.calls[i]? with
  | some (.finished result) => some result
  | _ => none

/-! ## What an action reaches -/

/-- Handles point to what there is, and processors do not work on forks. -/
structure Sound (s : System) : Prop where
  processors : ∀ p ∈ s.processors, s.world.heap.Valid p.store ∧ p.store ∉ s.forks
  forks : ∀ h ∈ s.forks, s.world.heap.Valid h
  calls : ∀ (i : Nat) (call : Call), s.calls[i]? = some (.pending call) →
    ∃ store, call.store? = some store ∧ s.world.heap.Valid store ∧
      (call.processes = true → store ∈ s.forks) ∧
      ∀ cell, call.sleepsOn? = some cell → cell < s.world.cells.length
  jobs : ∀ job ∈ s.world.jobs, s.world.heap.Valid job.store ∧
    job.cell < s.world.cells.length

/--
All that an action within a store and some cells changes: processors and forks
that are new work on new namespaces, and the call that is made or polled works
on the store and waits for one of the cells or a new one.
-/
structure Change (store : Namespace.Handle) (cells : List Nat) (s s' : System) : Prop where
  world : World.Confined store cells s.world s'.world
  valid : s'.world.heap.Valid store
  processors : ∀ p ∈ s'.processors, (∃ q ∈ s.processors, p.store = q.store) ∨
    (¬ s.world.heap.Valid p.store ∧ s'.world.heap.Valid p.store ∧ p.store ∉ s'.forks)
  forks : ∃ new, s'.forks = s.forks ++ new ∧
    ∀ h ∈ new, ¬ s.world.heap.Valid h ∧ s'.world.heap.Valid h
  calls : ∀ (i : Nat) (call : Call), s'.calls[i]? = some (.pending call) →
    s.calls[i]? = some (.pending call) ∨ (call.store? = some store ∧
      (call.processes = true → store ∈ s'.forks) ∧
      ∀ cell, call.sleepsOn? = some cell → cell < s'.world.cells.length ∧
        (s.world.cells.length ≤ cell ∨ cell ∈ cells))
  kept : ∀ (i : Nat) (polled : Poll Call Outcome), s.calls[i]? = some polled →
    s'.calls[i]? = some polled ∨ ∃ call, polled = .pending call ∧ call.store? = some store

variable {s s' : System} {store : Namespace.Handle} {cells : List Nat}

theorem Sound.change (sound : s.Sound) (change : Change store cells s s') : s'.Sound := by
  have size := change.world.size
  have grown := change.world.grown
  obtain ⟨new, hnew, fresh⟩ := change.forks
  constructor
  · intro p hp
    rcases change.processors p hp with ⟨q, hq, same⟩ | ⟨-, valid, apart⟩
    · -- an old namespace is no fork, since forks made now are new
      obtain ⟨valid, apart⟩ := sound.processors q hq
      rw [same]
      refine ⟨Nat.lt_of_lt_of_le valid size, ?_⟩
      intro hfork
      rw [hnew] at hfork
      rcases List.mem_append.1 hfork with old | added
      · exact apart old
      · exact (fresh _ added).1 valid
    · exact ⟨valid, apart⟩
  · intro h hfork
    rw [hnew] at hfork
    rcases List.mem_append.1 hfork with old | added
    · exact Nat.lt_of_lt_of_le (sound.forks h old) size
    · exact (fresh h added).2
  · intro i call hcall
    rcases change.calls i call hcall with old | ⟨works, forked, cell⟩
    · obtain ⟨store, works, valid, forked, inside⟩ := sound.calls i call old
      refine ⟨store, works, Nat.lt_of_lt_of_le valid size, ?_, ?_⟩
      · intro processes
        rw [hnew]
        exact List.mem_append_left _ (forked processes)
      · intro cell hcell
        exact Nat.lt_of_lt_of_le (inside cell hcell) grown
    · exact ⟨store, works, change.valid, forked, fun c hc => (cell c hc).1⟩
  · intro job hjob
    rcases change.world.left job hjob with old | ⟨here, inside, -⟩
    · obtain ⟨valid, inside⟩ := sound.jobs job old
      exact ⟨Nat.lt_of_lt_of_le valid size, Nat.lt_of_lt_of_le inside grown⟩
    · rw [here]
      exact ⟨change.valid, inside⟩

/-! ## Configuring and copying -/

theorem Change.of_processors (world : World.Confined store cells s.world s'.world)
    (valid : s'.world.heap.Valid store)
    (processors : ∀ p ∈ s'.processors, (∃ q ∈ s.processors, p.store = q.store) ∨
      (¬ s.world.heap.Valid p.store ∧ s'.world.heap.Valid p.store ∧ p.store ∉ s'.forks))
    (forks : s'.forks = s.forks) (calls : s'.calls = s.calls) :
    Change store cells s s' := by
  refine ⟨world, valid, processors, ⟨[], by simp [forks]⟩, ?_, ?_⟩
  · intro i call hcall
    rw [calls] at hcall
    exact .inl hcall
  · intro i polled hpolled
    rw [calls]
    exact .inl hpolled

theorem Change.replace (sound : s.Sound) {j : Nat} {p q : Processor} {w : World}
    (found : s.processors[j]? = some p) (same : q.store = p.store)
    (world : World.Confined p.store [] s.world w) :
    Change p.store [] s (s.replace j (q, w)) := by
  have listed := List.mem_of_getElem? found
  refine .of_processors world ?_ ?_ rfl rfl
  · exact Nat.lt_of_lt_of_le (sound.processors p listed).1 world.size
  · intro r hr
    rcases List.mem_or_eq_of_mem_set hr with old | rfl
    · exact .inl ⟨r, old, rfl⟩
    · exact .inl ⟨p, listed, same⟩

theorem fresh_allocate (w : World) (ns : Namespace) :
    ¬ w.heap.Valid (w.allocate ns).1 ∧ (w.allocate ns).2.heap.Valid (w.allocate ns).1 := by
  simp [World.allocate, Namespace.Heap.alloc, Namespace.Heap.Valid]

theorem Change.add (sound : s.Sound) {p : Processor} {ns : Namespace}
    (here : p.store = (s.world.allocate ns).1) :
    Change p.store [] s (s.add (p, (s.world.allocate ns).2)) := by
  obtain ⟨new, valid⟩ := fresh_allocate s.world ns
  rw [← here] at new valid
  refine .of_processors (World.confined_allocate ns) valid ?_ rfl rfl
  intro q hq
  rcases List.mem_append.1 hq with old | added
  · exact .inl ⟨q, old, rfl⟩
  · rw [List.mem_singleton.1 added]
    refine .inr ⟨new, valid, ?_⟩
    intro forked
    exact new (sound.forks _ forked)

/-! ## Running and processing -/

theorem on_of_found {j : Nat} {p : Processor} {f : Processor → System}
    (found : s.processors[j]? = some p) : s.on j f = f p := by
  unfold on
  rw [found]

theorem onFrozen_of_found {j : Nat} {p : Processor} {pipeline : Pipeline}
    {f : Processor → System} (found : s.processors[j]? = some p)
    (frozen : p.state = .frozen pipeline) : s.onFrozen j f = f p := by
  have yes : p.isFrozen = true := by simp [Processor.isFrozen, frozen]
  rw [onFrozen, on_of_found found, if_pos yes]

theorem onFrozen_cases (s : System) (j : Nat) :
    (∃ p pipeline, s.processors[j]? = some p ∧ p.state = .frozen pipeline) ∨
      ∀ f, s.onFrozen j f = s := by
  cases found : s.processors[j]? with
  | none => exact .inr fun f => by simp only [onFrozen, on, found]
  | some p =>
      cases state : p.state with
      | frozen pipeline => exact .inl ⟨p, pipeline, rfl, state⟩
      | configuring c =>
          have unfrozen : p.isFrozen = false := by simp [Processor.isFrozen, state]
          exact .inr fun f => by simp [onFrozen, on, found, unfrozen]

theorem replace_of_found {j : Nat} {p : Processor} {w : World}
    (found : s.processors[j]? = some p) : s.replace j (p, w) = { s with world := w } := by
  obtain ⟨inside, rfl⟩ := List.getElem?_eq_some_iff.1 found
  simp [replace]

section Frozen

variable {j : Nat} {p : Processor} {pipeline : Pipeline}

theorem act_run (found : s.processors[j]? = some p) (frozen : p.state = .frozen pipeline)
    (d : Document) : s.act (.run j d) =
      { s with calls := s.calls ++ [.pending (.run pipeline p.store d)] } := by
  simp only [act]
  rw [onFrozen_of_found found frozen, Processor.run, Processor.freeze_frozen {} s.world frozen]
  simp only [replace_of_found found]

theorem act_runSync (found : s.processors[j]? = some p)
    (frozen : p.state = .frozen pipeline) (d : Document) : s.act (.runSync j d) =
      { s with
        world := (DocPipeline.runSync .runSync p.store pipeline.transformers d s.world).2 } := by
  simp only [act]
  rw [onFrozen_of_found found frozen, Processor.runSync, Processor.frozen,
    Processor.freeze_frozen {} s.world frozen]
  exact replace_of_found found

theorem act_process (found : s.processors[j]? = some p)
    (frozen : p.state = .frozen pipeline) (file : File) :
    s.act (.process j file) =
      { s with
        world := (s.world.fork p.store).2
        calls := s.calls ++ [.pending (.process pipeline (s.world.fork p.store).1 file)]
        forks := s.forks ++ [(s.world.fork p.store).1] } := by
  simp only [act]
  rw [onFrozen_of_found found frozen, Processor.process,
    Processor.freeze_frozen {} s.world frozen]
  simp only [replace_of_found found]

theorem act_processSync (found : s.processors[j]? = some p)
    (frozen : p.state = .frozen pipeline) (file : File) :
    s.act (.processSync j file) =
      { s with
        world := (pipeline.processSync (s.world.fork p.store).1 file
          (s.world.fork p.store).2).2
        forks := s.forks ++ [(s.world.fork p.store).1] } := by
  simp only [act]
  rw [onFrozen_of_found found frozen, Processor.processSync, Processor.frozen,
    Processor.freeze_frozen {} s.world frozen]
  simp only [replace_of_found found]

end Frozen

theorem getElem?_snoc {α : Type} {l : List α} {a b : α} {i : Nat}
    (h : (l ++ [a])[i]? = some b) : l[i]? = some b ∨ b = a := by
  rw [List.getElem?_append] at h
  split at h
  · exact .inl h
  · rw [List.getElem?_singleton] at h
    split at h
    · exact .inr (Option.some.inj h).symm
    · simp at h

theorem Change.forked {p : Processor} {w : World}
    (calls : List (Poll Call Outcome))
    (world : World.Confined (s.world.fork p.store).1 [] (s.world.fork p.store).2 w)
    (kept : ∀ (i : Nat) (polled : Poll Call Outcome), s.calls[i]? = some polled →
      calls[i]? = some polled)
    (made : ∀ (i : Nat) (call : Call), calls[i]? = some (.pending call) →
      s.calls[i]? = some (.pending call) ∨
        call.store? = some (s.world.fork p.store).1 ∧ call.sleepsOn? = none) :
    Change (s.world.fork p.store).1 [] s
      { s with world := w, calls, forks := s.forks ++ [(s.world.fork p.store).1] } := by
  obtain ⟨new, here⟩ := fresh_allocate s.world (s.world.data p.store)
  have allocated : World.Confined (s.world.fork p.store).1 [] s.world
      (s.world.fork p.store).2 := World.confined_allocate _
  have valid : w.heap.Valid (s.world.fork p.store).1 := Nat.lt_of_lt_of_le here world.size
  refine ⟨allocated.trans_nil world, valid, fun q hq => .inl ⟨q, hq, rfl⟩,
    ⟨[(s.world.fork p.store).1], rfl, ?_⟩, ?_, fun i polled h => .inl (kept i polled h)⟩
  · intro h hh
    rw [List.mem_singleton.1 hh]
    exact ⟨new, valid⟩
  · intro i call hcall
    rcases made i call hcall with old | ⟨works, awake⟩
    · exact .inl old
    · refine .inr ⟨works, fun _ => by simp, ?_⟩
      intro cell hcell
      simp [awake] at hcell

theorem change_process {j : Nat} {p : Processor} {pipeline : Pipeline}
    (found : s.processors[j]? = some p) (frozen : p.state = .frozen pipeline) (file : File) :
    Change (s.world.fork p.store).1 [] s (s.act (.process j file)) := by
  rw [act_process found frozen]
  apply Change.forked _ .refl fun _ _ old => getElem?_append_of_some old
  intro i call hcall
  rcases getElem?_snoc hcall with old | made
  · exact .inl old
  · cases made
    exact .inr ⟨rfl, rfl⟩

theorem change_processSync {j : Nat} {p : Processor} {pipeline : Pipeline}
    (found : s.processors[j]? = some p) (frozen : p.state = .frozen pipeline) (file : File) :
    Change (s.world.fork p.store).1 [] s (s.act (.processSync j file)) := by
  rw [act_processSync found frozen]
  exact Change.forked _ (pipeline.confined_processSync file) (fun _ _ old => old)
    (fun _ _ old => .inl old)

theorem Change.within (sound : s.Sound) {p : Processor} {w : World} (hp : p ∈ s.processors)
    (world : World.Confined p.store [] s.world w) :
    Change p.store [] s { s with world := w } := by
  refine .of_processors world ?_ (fun q hq => .inl ⟨q, hq, rfl⟩) rfl rfl
  exact Nat.lt_of_lt_of_le (sound.processors p hp).1 world.size

theorem change_run (sound : s.Sound) {p : Processor} (hp : p ∈ s.processors)
    (pipeline : Pipeline) (d : Document) :
    Change p.store [] s
      { s with calls := s.calls ++ [.pending (.run pipeline p.store d)] } := by
  have same := Change.within sound hp .refl
  refine ⟨same.world, same.valid, same.processors, same.forks, ?_,
    fun _ _ old => .inl (getElem?_append_of_some old)⟩
  intro i call hcall
  rcases getElem?_snoc hcall with old | made
  · exact .inl old
  · cases made
    exact .inr ⟨rfl, (fun h => nomatch h), (fun _ h => nomatch h)⟩

/-! ## Calls and jobs -/

theorem act_poll {i : Nat} {call : Call} (found : s.calls[i]? = some (.pending call)) :
    s.act (.poll i) = { s with
      world := (call.poll s.world).2
      calls := s.calls.set i (call.poll s.world).1 } := by
  simp only [act, found]

theorem change_poll (sound : s.Sound) {i : Nat} {call : Call}
    (found : s.calls[i]? = some (.pending call)) (works : call.store? = some store) :
    Change store call.sleepsOn?.toList s (s.act (.poll i)) := by
  have moved := Call.moved_poll (w := s.world) works
  obtain ⟨store', works', valid, forked, inside⟩ := sound.calls i call found
  obtain rfl : store' = store := Option.some.inj (works'.symm.trans works)
  rw [act_poll found]
  refine ⟨moved.confined.widen, Nat.lt_of_lt_of_le valid moved.confined.size,
    fun q hq => .inl ⟨q, hq, rfl⟩, ⟨[], by simp⟩, ?_, ?_⟩
  · intro k next hnext
    by_cases polled : k = i
    · subst polled
      have result : (call.poll s.world).1 = .pending next := by
        have listed := (List.getElem?_eq_some_iff.1 found).1
        simpa [listed] using hnext
      obtain ⟨hstore, kind⟩ := moved.kind next result
      refine .inr ⟨hstore, fun processes => forked (kind ▸ processes), ?_⟩
      intro cell hcell
      rcases moved.cell next cell result hcell with same | ⟨new, opened⟩
      · have known := Nat.lt_of_lt_of_le (inside cell same) moved.confined.grown
        exact ⟨known, .inr (by simp [same])⟩
      · exact ⟨opened, .inl new⟩
    · rw [List.getElem?_set_ne (Ne.symm polled)] at hnext
      exact .inl hnext
  · intro k other hother
    by_cases polled : k = i
    · subst polled
      cases found.symm.trans hother
      exact .inr ⟨call, rfl, works⟩
    · exact .inl (by rw [List.getElem?_set_ne (Ne.symm polled)]; exact hother)

theorem act_fire {k : Nat} {job : Job} (found : s.world.jobs[k]? = some job) :
    s.act (.fire k) = { s with world := (s.world.dequeue k).runJob job } := by
  simp only [act, found]

theorem change_fire (sound : s.Sound) {k : Nat} {job : Job}
    (found : s.world.jobs[k]? = some job) :
    Change job.store [job.cell] s (s.act (.fire k)) := by
  have world : World.Confined job.store [job.cell] s.world
      ((s.world.dequeue k).runJob job) :=
    (World.confined_dequeue found).widen.trans_same (World.confined_runJob job)
  have valid := (sound.jobs job (List.mem_of_getElem? found)).1
  rw [act_fire found]
  exact .of_processors world (Nat.lt_of_lt_of_le valid world.size)
    (fun q hq => .inl ⟨q, hq, rfl⟩) rfl rfl

/-! ## Any action -/

/--
Who goes on in an action, within which store and cells: a processor, somebody on
a new namespace, a call that is polled, or a job.
-/
inductive Actor (s : System) : Action → Namespace.Handle → List Nat → Prop
  | owner {action : Action} {p : Processor} (listed : p ∈ s.processors) :
      Actor s action p.store []
  | newcomer {action : Action} {h : Namespace.Handle} (new : ¬ s.world.heap.Valid h) :
      Actor s action h []
  | call {i : Nat} {call : Call} {h : Namespace.Handle}
      (found : s.calls[i]? = some (.pending call)) (works : call.store? = some h) :
      Actor s (.poll i) h call.sleepsOn?.toList
  | job {k : Nat} {job : Job} (found : s.world.jobs[k]? = some job) :
      Actor s (.fire k) job.store [job.cell]

/-- An action that changes anything is somebody's, and changes no more than that. -/
def Acts (s : System) (action : Action) (s' : System) : Prop :=
  s' = s ∨ ∃ store cells, s.Actor action store cells ∧ Change store cells s s'

theorem Acts.on {action : Action} {j : Nat} {f : Processor → System}
    (acts : ∀ p, s.processors[j]? = some p → s.Acts action (f p)) :
    s.Acts action (s.on j f) := by
  unfold System.on
  cases found : s.processors[j]? with
  | none => exact .inl rfl
  | some p => exact acts p found

theorem Acts.replace (sound : s.Sound) {action : Action} {j : Nat} {p : Processor}
    {changed : Processor × World} (found : s.processors[j]? = some p)
    (same : changed.1.store = p.store)
    (world : World.Confined p.store [] s.world changed.2) :
    s.Acts action (s.replace j changed) :=
  .inr ⟨p.store, [], .owner (List.mem_of_getElem? found), .replace sound found same world⟩

theorem Acts.add (sound : s.Sound) {action : Action} {p : Processor} {ns : Namespace}
    (here : p.store = (s.world.allocate ns).1) :
    s.Acts action (s.add (p, (s.world.allocate ns).2)) := by
  have new := (fresh_allocate s.world ns).1
  rw [← here] at new
  exact .inr ⟨p.store, [], .newcomer new, .add sound here⟩

theorem Acts.within (sound : s.Sound) {action : Action} {j : Nat} {p : Processor} {w : World}
    (found : s.processors[j]? = some p) (world : World.Confined p.store [] s.world w) :
    s.Acts action { s with world := w } := by
  have listed := List.mem_of_getElem? found
  exact .inr ⟨p.store, [], .owner listed, .within sound listed world⟩

theorem acts_use (sound : s.Sound) (j : Nat) (what : Pluggable) :
    s.Acts (.use j what) (s.act (.use j what)) := by
  refine .on fun p found => ?_
  cases used : p.use what s.world with
  | mk result w =>
      have world := Processor.confined_use used
      cases result with
      | ok q => exact .replace sound found (Processor.store_use used) world
      | error e =>
          have listed := List.mem_of_getElem? found
          refine .inr ⟨p.store, [], .owner listed, .of_processors world ?_ ?_ rfl rfl⟩
          · exact Nat.lt_of_lt_of_le (sound.processors p listed).1 world.size
          · intro q hq
            exact .inl ⟨q, List.mem_of_mem_eraseIdx hq, rfl⟩

theorem acts_poll (sound : s.Sound) (i : Nat) : s.Acts (.poll i) (s.act (.poll i)) := by
  cases found : s.calls[i]? with
  | none => exact .inl (by simp only [act, found])
  | some call =>
      cases call with
      | finished result => exact .inl (by simp only [act, found])
      | pending call =>
          obtain ⟨store, works, -⟩ := sound.calls i call found
          exact .inr ⟨store, _, .call found works, change_poll sound found works⟩

theorem acts_fire (sound : s.Sound) (k : Nat) : s.Acts (.fire k) (s.act (.fire k)) := by
  cases found : s.world.jobs[k]? with
  | none => exact .inl (by simp only [act, found])
  | some job => exact .inr ⟨_, _, .job found, change_fire sound found⟩

theorem acts_act (sound : s.Sound) (action : Action) : s.Acts action (s.act action) := by
  cases action with
  | new => exact .add (p := (Processor.new s.world).1) sound rfl
  | use j what => exact acts_use sound j what
  | withParser j parser => exact .on fun p found => .replace sound found rfl .refl
  | withCompiler j compiler => exact .on fun p found => .replace sound found rfl .refl
  | freeze j book =>
      exact .on fun p found =>
        .replace sound found (Processor.store_freeze book) (Processor.confined_freeze book)
  | clone j => exact .on fun p found => .add (p := (p.clone s.world).1) sound rfl
  | copy j => exact .on fun p found => .add (p := (p.copy s.world).1) sound rfl
  | setData j key v =>
      exact .on fun p found => .within sound found (World.confined_writeData _)
  | run j d =>
      rcases s.onFrozen_cases j with ⟨p, pipeline, found, frozen⟩ | idle
      · have listed := List.mem_of_getElem? found
        rw [act_run found frozen]
        exact .inr ⟨p.store, [], .owner listed, change_run sound listed pipeline d⟩
      · exact .inl (idle _)
  | runSync j d =>
      rcases s.onFrozen_cases j with ⟨p, pipeline, found, frozen⟩ | idle
      · rw [act_runSync found frozen]
        exact .within sound found (confined_runSync p.store .runSync pipeline.transformers d)
      · exact .inl (idle _)
  | process j file =>
      rcases s.onFrozen_cases j with ⟨p, pipeline, found, frozen⟩ | idle
      · have new := (fresh_allocate s.world (s.world.data p.store)).1
        exact .inr ⟨_, [], .newcomer new, change_process found frozen file⟩
      · exact .inl (idle _)
  | processSync j file =>
      rcases s.onFrozen_cases j with ⟨p, pipeline, found, frozen⟩ | idle
      · have new := (fresh_allocate s.world (s.world.data p.store)).1
        exact .inr ⟨_, [], .newcomer new, change_processSync found frozen file⟩
      · exact .inl (idle _)
  | poll i => exact acts_poll sound i
  | fire k => exact acts_fire sound k

theorem Sound.act (sound : s.Sound) (action : Action) : (s.act action).Sound := by
  rcases acts_act sound action with same | ⟨store, cells, -, change⟩
  · rw [same]
    exact sound
  · exact sound.change change

theorem Sound.run (sound : s.Sound) (actions : List Action) : (s.run actions).Sound := by
  induction actions generalizing s with
  | nil => exact sound
  | cons action actions ih => exact ih (sound.act action)

theorem sound_empty : Sound {} := by
  constructor <;> simp

end System

end DocPipeline
