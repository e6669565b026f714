import DocPipeline.Proofs.SingleCompletion
import DocPipeline.Processor

/-!
# What a run can change

A run changes the contents of the namespace it works on, cells that it opens
itself, and the end of the job queue, where its jobs go.  A job changes the
namespace it was left with and its cell.  Everything else stays as it is.
-/

namespace DocPipeline

theorem getElem?_append_of_some {α : Type} {l more : List α} {a : α} {i : Nat}
    (h : l[i]? = some a) : (l ++ more)[i]? = some a := by
  rw [List.getElem?_append_left (List.getElem?_eq_some_iff.1 h).1]
  exact h

namespace World

def jobsOn (w : World) (h : Namespace.Handle) : List Job :=
  w.jobs.filter fun job => job.store = h

/--
From one world to the other, nothing that was there has changed but the contents
of the store, its jobs, and the given cells; a job left since has one of these
cells or a new one.
-/
structure Confined (store : Namespace.Handle) (cells : List Nat) (w w' : World) : Prop where
  size : w.heap.cells.length ≤ w'.heap.cells.length
  data : ∀ h, w.heap.Valid h → h ≠ store → w'.data h = w.data h
  grown : w.cells.length ≤ w'.cells.length
  kept : ∀ id, id < w.cells.length → id ∉ cells → w'.cells[id]? = w.cells[id]?
  jobs : ∀ h, h ≠ store → w'.jobsOn h = w.jobsOn h
  left : ∀ job ∈ w'.jobs, job ∈ w.jobs ∨ (job.store = store ∧
    job.cell < w'.cells.length ∧ (w.cells.length ≤ job.cell ∨ job.cell ∈ cells))

variable {store : Namespace.Handle} {cells more : List Nat} {w w' w'' : World}

theorem Confined.refl : Confined store cells w w where
  size := Nat.le_refl _
  data _ _ _ := rfl
  grown := Nat.le_refl _
  kept _ _ _ := rfl
  jobs _ _ := rfl
  left _ h := .inl h

theorem Confined.trans (h : Confined store cells w w') (h' : Confined store more w' w'')
    (fresh : ∀ id ∈ more, w.cells.length ≤ id ∨ id ∈ cells) :
    Confined store cells w w'' := by
  have size := h.size
  have size' := h'.size
  have grown := h.grown
  have grown' := h'.grown
  constructor
  · omega
  · intro k hk ne
    have still : w'.heap.Valid k := Nat.lt_of_lt_of_le hk size
    rw [h'.data k still ne, h.data k hk ne]
  · omega
  · intro id inside hid
    have untouched : id ∉ more := by
      intro hmem
      rcases fresh id hmem with hle | hin
      · omega
      · exact hid hin
    rw [h'.kept id (by omega) untouched, h.kept id inside hid]
  · intro k ne
    rw [h'.jobs k ne, h.jobs k ne]
  · intro job hjob
    rcases h'.left job hjob with hold | ⟨hstore, hlt, hcell⟩
    · rcases h.left job hold with hfirst | ⟨hstore, hlt, hcell⟩
      · exact .inl hfirst
      · exact .inr ⟨hstore, by omega, hcell⟩
    · refine .inr ⟨hstore, hlt, ?_⟩
      rcases hcell with hle | hmem
      · exact .inl (by omega)
      · exact fresh job.cell hmem

theorem Confined.trans_nil (h : Confined store cells w w') (h' : Confined store [] w' w'') :
    Confined store cells w w'' := by
  refine h.trans h' ?_
  intro id hid
  simp at hid

theorem Confined.trans_same (h : Confined store cells w w')
    (h' : Confined store cells w' w'') : Confined store cells w w'' := by
  refine h.trans h' ?_
  intro id hid
  exact .inr hid

theorem Confined.widen (h : Confined store [] w w') : Confined store cells w w' :=
  Confined.refl.trans_nil h

theorem Confined.after_opening (h : Confined store [] w w')
    (h' : Confined store [w.cells.length] w' w'') : Confined store [] w w'' := by
  refine h.trans h' ?_
  intro id hid
  rw [List.mem_singleton.1 hid]
  exact .inl (Nat.le_refl _)

theorem Confined.unsealed {journal : Journal} {sealings : Nat}
    (h : Confined store cells w w') :
    Confined store cells w { w' with journal, sealings } :=
  ⟨h.size, h.data, h.grown, h.kept, h.jobs, h.left⟩

/-! ## Single changes -/

theorem data_writeData_of_ne {h : Namespace.Handle} (ns : Namespace) (ne : h ≠ store) :
    (w.writeData store ns).data h = w.data h := by
  have apart : store.address ≠ h.address := by
    intro same
    apply ne
    cases h
    cases store
    simp_all
  simp [data, writeData, Namespace.Heap.read, Namespace.Heap.write,
    List.getElem?_set_ne apart]

theorem confined_writeData (ns : Namespace) : Confined store [] w (w.writeData store ns) where
  size := by simp [writeData, Namespace.Heap.write]
  data _ _ ne := data_writeData_of_ne ns ne
  grown := Nat.le_refl _
  kept _ _ _ := rfl
  jobs _ _ := rfl
  left _ h := .inl h

theorem confined_allocate (ns : Namespace) : Confined store [] w (w.allocate ns).2 where
  size := by simp [allocate, Namespace.Heap.alloc]
  data _ valid _ := Namespace.Heap.read_alloc valid ns
  grown := Nat.le_refl _
  kept _ _ _ := rfl
  jobs _ _ := rfl
  left _ h := .inl h

theorem confined_record (e : Event) : Confined store [] w (w.record e) where
  size := Nat.le_refl _
  data _ _ _ := rfl
  grown := Nat.le_refl _
  kept _ _ _ := rfl
  jobs _ _ := rfl
  left _ h := .inl h

theorem confined_setCell (id : Nat) (c : Completion) :
    Confined store [id] w (w.setCell id c) where
  size := Nat.le_refl _
  data _ _ _ := rfl
  grown := by simp [setCell]
  kept other _ hother := by
    have ne : id ≠ other := by
      intro same
      simp [same] at hother
    simp [setCell, List.getElem?_set_ne ne]
  jobs _ _ := rfl
  left _ h := .inl h

theorem confined_openCell (c : Completion) : Confined store [] w (w.openCell c).2 where
  size := Nat.le_refl _
  data _ _ _ := rfl
  grown := by simp [openCell]
  kept id inside _ := by simp [openCell, List.getElem?_append_left inside]
  jobs _ _ := rfl
  left _ h := .inl h

theorem confined_leave {id : Nat} (opened : id < w.cells.length)
    (body : Program Completing Unit) :
    Confined store [id] w { w with jobs := w.jobs ++ [⟨id, store, body⟩] } where
  size := Nat.le_refl _
  data _ _ _ := rfl
  grown := Nat.le_refl _
  kept _ _ _ := rfl
  jobs h ne := by simp [jobsOn, List.filter_append, ne.symm]
  left job hjob := by
    rcases List.mem_append.1 hjob with hold | hnew
    · exact .inl hold
    · rw [List.mem_singleton.1 hnew]
      exact .inr ⟨rfl, opened, .inr (by simp)⟩

/-! ## Operations -/

theorem confined_work (op : Work.Op) : Confined store [] w (w.work store op).2 := by
  cases op with
  | data => exact .refl
  | insert key v => exact confined_writeData _
  | merge key v => exact confined_writeData _
  | note v => exact confined_record _

theorem confined_completing (id : Nat) (op : Completing.Op) :
    Confined store [id] w (w.completing store id op).2 := by
  cases op with
  | work op => exact (confined_work op).widen
  | complete result => exact confined_setCell id _
  | inspect => exact .refl

theorem confined_calling {id : Nat} (opened : id < w.cells.length) (op : Calling.Op) :
    Confined store [id] w (w.calling store id op).2 := by
  cases op with
  | now op => exact confined_completing id op
  | keep => exact confined_setCell id _
  | defer job =>
      have retained : Confined store [id] w (w.retain id) := confined_setCell id _
      have still : id < (w.retain id).cells.length := by simpa [retain, setCell] using opened
      exact retained.trans_same (confined_leave still job)

/-! ## Programs -/

variable {α : Type}

theorem confined_run_work (store : Namespace.Handle) (p : Program Work α) :
    Confined store [] w (p.run (World.work store) w).2 := by
  refine Program.run_preserves (P := Confined store [] w) ?_ p .refl
  intro op v confined
  exact confined.trans_nil (confined_work op)

theorem confined_run_completing (store : Namespace.Handle) (id : Nat)
    (p : Program Completing α) :
    Confined store [id] w (p.run (World.completing store id) w).2 := by
  refine Program.run_preserves (P := Confined store [id] w) ?_ p .refl
  intro op v confined
  exact confined.trans_same (confined_completing id op)

theorem confined_run_calling (store : Namespace.Handle) {id : Nat}
    (opened : id < w.cells.length) (p : Program Calling α) :
    Confined store [id] w (p.run (World.calling store id) w).2 := by
  refine Program.run_preserves (P := Confined store [id] w) ?_ p .refl
  intro op v confined
  have still : id < v.cells.length := Nat.lt_of_lt_of_le opened confined.grown
  exact confined.trans_same (confined_calling still op)

theorem confined_resume (store : Namespace.Handle) (p : Program Suspending α) :
    Confined store [] w (w.resume store p).2 := by
  induction p generalizing w with
  | done a => exact .refl
  | perform op next ih =>
      cases op with
      | work op => exact (confined_work op).trans_nil (ih _)
      | suspend => exact .refl

theorem confined_runJob (job : Job) : Confined job.store [job.cell] w (w.runJob job) := by
  have ran := confined_run_completing (w := w) job.store job.cell job.body
  exact ran.trans_same (confined_setCell job.cell _)

end World

/-! ## Invocations -/

namespace Bound

variable {b : Bound} {store : Namespace.Handle} {w : World}

theorem confined_conclude (store : Namespace.Handle) (id : Nat)
    (returned : Except Cause Unit) :
    World.Confined store [id] w (b.conclude id returned w).2 := by
  have released : World.Confined store [id] w (w.release id) := World.confined_setCell id _
  have twice : World.Confined store [id] w ((w.release id).release id) :=
    released.trans_same (World.confined_setCell id _)
  have closed : World.Confined store [id] w
      (((w.release id).setCell id ((w.release id).cell id).close).release id) :=
    (released.trans_same (World.confined_setCell id _)).trans_same
      (World.confined_setCell id _)
  unfold conclude
  dsimp only
  split
  · exact twice
  · cases returned with
    | ok done => exact twice
    | error source =>
        dsimp only
        split
        · exact twice
        · exact closed

theorem waiting_conclude {id cell : Nat} {returned : Except Cause Unit}
    (waiting : (b.conclude id returned w).1 = .waiting cell) : cell = id := by
  unfold conclude at waiting
  dsimp only at waiting
  split at waiting
  · simp at waiting
  · cases returned with
    | error source =>
        dsimp only at waiting
        split at waiting <;> simp at waiting
    | ok done =>
        dsimp only [announce] at waiting
        split at waiting
        · simp at waiting
        · simpa using waiting.symm

theorem confined_invokeCallback (store : Namespace.Handle) 
    (closure : Program Calling (Except Cause Unit)) :
    World.Confined store [] w (b.invokeCallback store closure w).2 := by
  have opened : World.Confined store [] w (b.entered w) := World.confined_openCell _
  have inside : w.cells.length < (b.entered w).cells.length := by
    simp [entered, World.openCell]
  have ran := opened.after_opening
    (World.confined_run_calling store inside closure)
  rw [invokeCallback_eq]
  exact ran.after_opening (confined_conclude _ _ _)

theorem confined_invoke (store : Namespace.Handle) (d : Document) :
    World.Confined store [] w (b.invoke store d w).2 := by
  have recorded : World.Confined store [] w (w.record (.invoked b.index b.plugin)) :=
    World.confined_record _
  refine recorded.trans_nil ?_
  unfold invoke
  cases b.transformer with
  | sync run => exact World.confined_run_work _ _
  | async run => exact .refl
  | future start => exact World.confined_run_work _ _
  | callback run => exact confined_invokeCallback _ _

theorem waiting_invokeCallback {closure : Program Calling (Except Cause Unit)} {cell : Nat}
    (waiting : (b.invokeCallback store closure w).1 = .waiting cell) :
    w.cells.length ≤ cell ∧ cell < (b.invokeCallback store closure w).2.cells.length := by
  rw [invokeCallback_eq] at waiting ⊢
  obtain rfl := waiting_conclude waiting
  have inside : w.cells.length < (b.entered w).cells.length := by
    simp [entered, World.openCell]
  have ran := (World.confined_run_calling store inside closure).grown
  have concluded := (confined_conclude (b := b)
    (w := (closure.run (World.calling store w.cells.length) (b.entered w)).2)
    store w.cells.length (b.returned store closure w)).grown
  exact ⟨Nat.le_refl _, by omega⟩

theorem waiting_invoke {d : Document} {cell : Nat}
    (waiting : (b.invoke store d w).1 = .waiting cell) :
    w.cells.length ≤ cell ∧ cell < (b.invoke store d w).2.cells.length := by
  unfold invoke at waiting ⊢
  cases htransformer : b.transformer with
  | callback run =>
      simp only [htransformer] at waiting ⊢
      have opened := waiting_invokeCallback waiting
      exact ⟨opened.1, opened.2⟩
  | _ => simp [htransformer] at waiting

end Bound

/-! ## Runs -/

variable {store : Namespace.Handle} {w : World}

theorem confined_runSync (store : Namespace.Handle) (entry : Entry) (rest : List Bound)
    (d : Document) :
    World.Confined store [] w (runSync entry store rest d w).2 := by
  induction rest generalizing d w with
  | nil => exact .refl
  | cons b rest ih =>
      have invoked := b.confined_invoke (w := w) store d
      unfold runSync
      split
      · next heq =>
        rw [heq] at invoked
        exact invoked.trans_nil (ih _)
      · next heq =>
        rw [heq] at invoked
        exact invoked
      · next heq =>
        rw [heq] at invoked
        exact invoked

namespace Run

/-- A run on the store whose cell, if it waits for one, was opened between the two worlds. -/
def Begun (store : Namespace.Handle) (w w' : World) (run : Run) : Prop :=
  run.store = store ∧
    ∀ cell, run.sleepsOn? = some cell → w.cells.length ≤ cell ∧ cell < w'.cells.length

theorem Begun.mono {v w' w'' : World} {run : Run} (h : run.Begun store w' w'')
    (grown : v.cells.length ≤ w'.cells.length) : run.Begun store v w'' := by
  refine ⟨h.1, ?_⟩
  intro cell hcell
  obtain ⟨hle, hlt⟩ := h.2 cell hcell
  exact ⟨by omega, hlt⟩

theorem begun_of_task {w' : World} (rest : List Bound) (task : Task) :
    Begun store w w' ⟨store, rest, .task task⟩ :=
  ⟨rfl, fun _ hcell => nomatch hcell⟩

structure Moved (store : Namespace.Handle) (w : World) (polled : Poll Run Document × World) :
    Prop where
  confined : World.Confined store [] w polled.2
  begun : ∀ run, polled.1 = .pending run → run.Begun store w polled.2

theorem Moved.finished (confined : World.Confined store [] w w')
    (result : Except ProcessorError Document) : Moved store w (.finished result, w') :=
  ⟨confined, fun _ h => nomatch h⟩

theorem Moved.after {w' : World} {polled : Poll Run Document × World}
    (h : World.Confined store [] w w') (moved : Moved store w' polled) :
    Moved store w polled := by
  refine ⟨h.trans_nil moved.confined, ?_⟩
  intro run hrun
  exact (moved.begun run hrun).mono h.grown

theorem moved_advance (store : Namespace.Handle) (rest : List Bound) (d : Document) :
    Moved store w (advance store rest d w) := by
  induction rest generalizing d w with
  | nil => exact .finished .refl _
  | cons b rest ih =>
      have invoked := b.confined_invoke (w := w) store d
      unfold advance
      split
      · next heq =>
        rw [heq] at invoked
        exact .after invoked (ih _)
      · next heq =>
        rw [heq] at invoked
        exact .finished invoked _
      · next cell w' heq =>
        have left : (b.invoke store d w).1 = .waiting cell := by rw [heq]
        have waiting := b.waiting_invoke left
        rw [heq] at invoked waiting
        refine ⟨invoked, ?_⟩
        intro run hrun
        cases hrun
        refine ⟨rfl, ?_⟩
        intro other hother
        cases hother
        exact waiting
      · next task w' heq =>
        rw [heq] at invoked
        have resumed := World.confined_resume (w := w') store task
        refine .after invoked ?_
        split
        · next hresume =>
          rw [hresume] at resumed
          exact .after resumed (ih _)
        · next hresume =>
          rw [hresume] at resumed
          exact .finished resumed _
        · next hresume =>
          rw [hresume] at resumed
          refine ⟨resumed, ?_⟩
          intro run hrun
          cases hrun
          exact begun_of_task rest _

theorem moved_poll (run : Run) :
    World.Confined run.store [] w (run.poll w).2 ∧
      ∀ next, (run.poll w).1 = .pending next →
        next = run ∨ next.Begun run.store w (run.poll w).2 := by
  unfold poll
  split
  · next d _ =>
    have moved := moved_advance (w := w) run.store run.rest d
    exact ⟨moved.confined, fun next hnext => .inr (moved.begun next hnext)⟩
  · next task _ =>
    have resumed := World.confined_resume (w := w) run.store task
    split
    · next d w' hresume =>
      rw [hresume] at resumed
      have moved := Moved.after resumed (moved_advance run.store run.rest d)
      exact ⟨moved.confined, fun next hnext => .inr (moved.begun next hnext)⟩
    · next hresume =>
      rw [hresume] at resumed
      exact ⟨resumed, fun _ hnext => nomatch hnext⟩
    · next hresume =>
      rw [hresume] at resumed
      refine ⟨resumed, ?_⟩
      intro next hnext
      cases hnext
      exact .inr (begun_of_task run.rest _)
  · split
    · next d _ =>
      have moved := moved_advance (w := w) run.store run.rest d
      exact ⟨moved.confined, fun next hnext => .inr (moved.begun next hnext)⟩
    · exact ⟨.refl, fun _ hnext => nomatch hnext⟩
    · refine ⟨.refl, ?_⟩
      intro next hnext
      cases hnext
      exact .inl rfl

end Run

/-! ## Calls -/

namespace Call

def store? : Call → Option Namespace.Handle
  | .failed _ => none
  | .running run => some run.store
  | .parsing _ store _ => some store
  | .processing _ run => some run.store

def processes : Call → Bool
  | .failed _ => false
  | .running _ => false
  | .parsing .. => true
  | .processing .. => true

structure Moved (call : Call) (store : Namespace.Handle) (w : World)
    (polled : Poll Call Outcome × World) : Prop where
  confined : World.Confined store [] w polled.2
  kind : ∀ next, polled.1 = .pending next →
    next.store? = some store ∧ next.processes = call.processes
  cell : ∀ next cell, polled.1 = .pending next → next.sleepsOn? = some cell →
    call.sleepsOn? = some cell ∨ w.cells.length ≤ cell ∧ cell < polled.2.cells.length

theorem Moved.of_run {run : Run} (wrap : Run → Call) {polled : Poll Call Outcome × World}
    (stores : ∀ r, (wrap r).store? = some r.store)
    (sleeps : ∀ r, (wrap r).sleepsOn? = r.sleepsOn?)
    (kinds : ∀ r, (wrap r).processes = (wrap run).processes)
    (world : polled.2 = (run.poll w).2)
    (pending : ∀ next, polled.1 = .pending next →
      ∃ r, (run.poll w).1 = .pending r ∧ next = wrap r) :
    (wrap run).Moved run.store w polled := by
  obtain ⟨confined, moved⟩ := Run.moved_poll (w := w) run
  rw [← world] at confined moved
  refine ⟨confined, ?_, ?_⟩
  · intro next hnext
    obtain ⟨r, hr, rfl⟩ := pending next hnext
    rcases moved r hr with rfl | begun
    · exact ⟨stores _, rfl⟩
    · exact ⟨by rw [stores, begun.1], kinds r⟩
  · intro next cell hnext hcell
    obtain ⟨r, hr, rfl⟩ := pending next hnext
    rw [sleeps] at hcell ⊢
    rcases moved r hr with rfl | begun
    · exact .inl hcell
    · exact .inr (begun.2 cell hcell)

theorem moved_pollRun (run : Run) :
    (Call.running run).Moved run.store w (pollRun run w) := by
  apply Moved.of_run Call.running (fun _ => rfl) (fun _ => rfl) (fun _ => rfl)
  · unfold pollRun
    split <;> simp [*]
  · intro next hnext
    unfold pollRun at hnext
    split at hnext
    · simp at hnext
    · simp at hnext
    · next r _ heq =>
      cases hnext
      exact ⟨r, by rw [heq], rfl⟩

theorem moved_pollProcess (p : Pipeline) (run : Run) :
    (Call.processing p run).Moved run.store w (pollProcess p run w) := by
  apply Moved.of_run (Call.processing p) (fun _ => rfl) (fun _ => rfl) (fun _ => rfl)
  · unfold pollProcess
    split <;> simp [*]
  · intro next hnext
    unfold pollProcess at hnext
    split at hnext
    · simp at hnext
    · simp at hnext
    · next r _ heq =>
      cases hnext
      exact ⟨r, by rw [heq], rfl⟩

theorem moved_poll {call : Call} (hstore : call.store? = some store) :
    call.Moved store w (call.poll w) := by
  cases call with
  | failed e => simp [store?] at hstore
  | running run =>
      obtain rfl := Option.some.inj hstore
      exact moved_pollRun run
  | processing p run =>
      obtain rfl := Option.some.inj hstore
      exact moved_pollProcess p run
  | parsing p store file =>
      obtain rfl := Option.some.inj hstore
      simp only [poll]
      split
      · exact ⟨.refl, by simp, by simp⟩
      · next tree _ =>
        have moved := moved_pollProcess (w := w) p ⟨store, p.transformers, .at ⟨tree, file⟩⟩
        exact ⟨moved.confined, moved.kind, moved.cell⟩

end Call

theorem Pipeline.confined_processSync (p : Pipeline) (file : File) :
    World.Confined store [] w (p.processSync store file w).2 := by
  unfold processSync
  split
  · exact .refl
  · next tree _ =>
    have ran := confined_runSync (w := w) store .processSync p.transformers
      ⟨tree, file⟩
    split
    · next heq =>
      rw [heq] at ran
      exact ran
    · next heq =>
      rw [heq] at ran
      exact ran

namespace Processor

variable {p q : Processor}

theorem confined_use {what : Pluggable} {result : Except ProcessorError Processor} {w' : World}
    (used : p.use what w = (result, w')) : World.Confined p.store [] w w' := by
  unfold use at used
  cases run : Setup.use what ⟨p.configuration, w.data p.store, w.journal⟩ with
  | mk outcome s =>
      simp only [run, Prod.mk.injEq] at used
      rw [← used.2]
      exact (World.confined_writeData s.data).unsealed

theorem confined_freeze (book : Book) :
    World.Confined p.store [] w (p.freeze book w).2.2 := by
  cases state : p.state with
  | frozen pipeline =>
      rw [freeze_frozen book w state]
      exact .refl
  | configuring c =>
      cases run : Setup.attachPending book ⟨c, w.data p.store, w.journal⟩ with
      | mk result s =>
          cases result with
          | error e =>
              rw [freeze_failed state run]
              exact (World.confined_writeData s.data).unsealed
          | ok done =>
              rw [freeze_sealed state run]
              exact (World.confined_writeData s.data).unsealed

theorem store_use {what : Pluggable} {w' : World} (used : p.use what w = (.ok q, w')) :
    q.store = p.store := by
  unfold use at used
  cases run : Setup.use what ⟨p.configuration, w.data p.store, w.journal⟩ with
  | mk outcome s =>
      cases outcome with
      | error e => simp [run, Except.map] at used
      | ok done =>
          simp only [run, Except.map, Prod.mk.injEq, Except.ok.injEq] at used
          rw [← used.1]

theorem store_freeze (book : Book) : (p.freeze book w).2.1.store = p.store := by
  unfold freeze
  split
  · rfl
  · next c _ =>
    cases Setup.attachPending book ⟨c, w.data p.store, w.journal⟩ with
    | mk result s => cases result <;> rfl

end Processor

end DocPipeline
