import DocPipeline.Proofs.Confinement

/-!
# Writes to a namespace

Whatever runs on a namespace changes its contents by inserting and merging only.
The writes made are those that the operations ask for, in their order, and the
contents are what comes of replaying them.
-/

namespace DocPipeline

inductive Write where
  | insert (key : String) (v : Value)
  | merge (key : String) (v : Value)

def Write.apply : Write → Namespace → Namespace
  | .insert key v, ns => ns.insert key v
  | .merge key v, ns => ns.merge key v

def Namespace.replay (ns : Namespace) (writes : List Write) : Namespace :=
  writes.foldl (fun ns write => write.apply ns) ns

theorem Namespace.replay_append (ns : Namespace) (writes more : List Write) :
    ns.replay (writes ++ more) = (ns.replay writes).replay more :=
  List.foldl_append

/-! ## What operations write -/

def Work.Op.write? : Work.Op → Option Write
  | .insert key v => some (.insert key v)
  | .merge key v => some (.merge key v)
  | _ => none

def Completing.Op.write? : Completing.Op → Option Write
  | .work op => op.write?
  | _ => none

def Calling.Op.write? : Calling.Op → Option Write
  | .now op => op.write?
  | _ => none

/-- The writes among the operations of a run. -/
def Program.writes {I : Interface} (write? : I.Op → Option Write)
    (steps : List (Program.Step I)) : List Write :=
  steps.filterMap fun step => write? step.1

namespace World

/--
From one world to the other, these writes are all that has changed the contents
of the store.
-/
structure Written (store : Namespace.Handle) (w : World) (writes : List Write) (v : World) :
    Prop where
  valid : w.heap.Valid store → v.heap.Valid store
  data : w.heap.Valid store → v.data store = (w.data store).replay writes

variable {store : Namespace.Handle} {w v w' : World} {writes more : List Write}

theorem Written.refl (w : World) : Written store w [] w where
  valid h := h
  data _ := rfl

theorem Written.trans (h : Written store w writes v) (h' : Written store v more w') :
    Written store w (writes ++ more) w' where
  valid hw := h'.valid (h.valid hw)
  data hw := by rw [h'.data (h.valid hw), h.data hw, Namespace.replay_append]

theorem Written.trans_nil (h : Written store w writes v) (h' : Written store v [] w') :
    Written store w writes w' := by
  have both := h.trans h'
  rwa [List.append_nil] at both

theorem Written.of_heap (same : v.heap = w.heap) : Written store w [] v where
  valid := by rw [same]; exact id
  data _ := by rw [World.data, same]; rfl

/-! ## Single changes -/

theorem written_writeData (ns : Namespace) (told : ns = (w.data store).replay writes) :
    Written store w writes (w.writeData store ns) where
  valid h := by simpa [Namespace.Heap.Valid, writeData, Namespace.Heap.write] using h
  data h := by
    rw [World.data, writeData, Namespace.Heap.read_write h, if_pos rfl]
    exact told

theorem written_work (op : Work.Op) :
    Written store w op.write?.toList (w.work store op).2 := by
  cases op with
  | data => exact .refl w
  | insert key v => exact written_writeData _ rfl
  | merge key v => exact written_writeData _ rfl
  | note v => exact .of_heap rfl

theorem written_completing (store : Namespace.Handle) (id : Nat) (op : Completing.Op) :
    Written store w op.write?.toList (w.completing store id op).2 := by
  cases op with
  | work op => exact written_work op
  | complete result => exact .of_heap rfl
  | inspect => exact .refl w

theorem written_calling (store : Namespace.Handle) (id : Nat) (op : Calling.Op) :
    Written store w op.write?.toList (w.calling store id op).2 := by
  cases op with
  | now op => exact written_completing store id op
  | keep => exact .of_heap rfl
  | defer job => exact .of_heap rfl

/-! ## Programs and jobs -/

theorem written_run {I : Interface} {α : Type}
    {handle : (op : I.Op) → World → I.Answer op × World} (write? : I.Op → Option Write)
    (step : ∀ op v, Written store v (write? op).toList (handle op v).2) (p : Program I α) :
    Written store w (Program.writes write? (p.trace handle w)) (p.run handle w).2 := by
  have next : ∀ past op v, Written store w (Program.writes write? past) v →
      Written store w (Program.writes write? (past ++ [⟨op, (handle op v).1⟩]))
        (handle op v).2 := by
    intro past op v h
    have both := h.trans (step op v)
    rw [Program.writes, List.filterMap_append]
    cases written : write? op <;> simpa [Program.writes, written] using both
  have begun : Written store w (Program.writes write? ([] : List (Program.Step I))) w := .refl w
  exact p.run_traced next begun

theorem written_elsewhere {h : Namespace.Handle} (other : store ≠ h) (id : Nat)
    (op : Completing.Op) : Written store w [] (w.completing h id op).2 := by
  have quiet (ns : Namespace) : Written store w [] (w.writeData h ns) := {
    valid := by simp [Namespace.Heap.Valid, writeData, Namespace.Heap.write]
    data := fun _ => data_writeData_of_ne ns other }
  cases op with
  | work op =>
      cases op with
      | data => exact .refl w
      | insert key v => exact quiet _
      | merge key v => exact quiet _
      | note v => exact .of_heap rfl
  | complete result => exact .of_heap rfl
  | inspect => exact .refl w

/-- What a job writes to the store, which is nothing unless the job works on it. -/
def jobWrites (w : World) (store : Namespace.Handle) (job : Job) : List Write :=
  if job.store = store then
    Program.writes Completing.Op.write? (job.body.trace (completing job.store job.cell) w)
  else []

theorem written_runJob (job : Job) :
    Written store w (w.jobWrites store job) (w.runJob job) := by
  unfold jobWrites
  split
  · next same =>
    subst same
    have ran := written_run (w := w) Completing.Op.write?
      (fun op _ => written_completing job.store job.cell op) job.body
    exact ran.trans_nil (.of_heap rfl)
  · next other =>
    have ran := written_run (w := w) (fun _ => none) (fun op _ =>
      written_elsewhere (Ne.symm other) job.cell op) job.body
    have none : Program.writes (fun _ => none)
        (job.body.trace (completing job.store job.cell) w) = [] := by
      simp [Program.writes]
    rw [none] at ran
    exact ran.trans_nil (.of_heap rfl)

end World

end DocPipeline
