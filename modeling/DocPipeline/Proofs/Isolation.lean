import DocPipeline.Proofs.Mirroring
import DocPipeline.Proofs.System

/-!
# Documents under way do not meet

The processing of a file works on a fork of its own.  Whatever else goes on in
the system, it comes out as if nothing else did; and nothing it does, neither
when it is called nor later, reaches the namespace of any processor.
-/

namespace DocPipeline

theorem World.Mirrors.dequeue {foreign : Nat → Prop} {g h : Namespace.Handle} {ids : List Nat}
    {w v : World} (m : World.Mirrors foreign g h ids w v) {k : Nat} {job : Job}
    (found : w.jobs[k]? = some job) (own : job.store = g) :
    ∃ job', v.jobs[(w.jobs.take k).countP fun job => job.store = g]? = some job' ∧
      Job.Twin g h ids job job' ∧ World.Mirrors foreign g h ids (w.dequeue k)
        (v.dequeue ((w.jobs.take k).countP fun job => job.store = g)) := by
  rw [List.countP_eq_length_filter]
  generalize hbefore : (w.jobs.take k).filter (fun job => job.store = g) = before
  generalize hafter : (w.jobs.drop (k + 1)).filter (fun job => job.store = g) = after
  have split : w.jobsOn g = before ++ job :: after := by
    rw [World.jobsOn_split found, List.filter_cons_of_pos (by simpa using own), hbefore, hafter]
  have jobs := m.jobs
  rw [split] at jobs
  have first := List.forall₂_take before.length jobs
  have second := List.forall₂_drop before.length jobs
  rw [List.take_left] at first
  rw [List.drop_left] at second
  obtain ⟨job', rest, twin, later, hdrop⟩ := List.forall₂_cons_left_iff.1 second
  refine ⟨job', ?_, twin, ?_⟩
  · have head : (v.jobs.drop before.length)[0]? = some job' := by rw [hdrop]; rfl
    simpa using head
  · refine { m with jobs := ?_ }
    have tail : v.jobs.drop (before.length + 1) = rest := by
      rw [← List.tail_drop, hdrop]
      rfl
    rw [World.jobsOn_dequeue, hbefore, hafter, World.dequeue,
      List.eraseIdx_eq_take_drop_succ, tail]
    exact List.rel_append first later

namespace System

/-! ## Processing alone -/

/-- A system with one frozen processor, and with nothing else. -/
def alone (pipeline : Pipeline) (ns : Namespace) : System where
  world := { heap := ⟨[ns]⟩ }
  processors := [⟨.frozen pipeline, ⟨0⟩⟩]

/--
What is left of an action where there is only the `i`-th call, which works on
`g`: its polls, and the firing of its jobs, which have the queue to themselves.
-/
def own? (i : Nat) (g : Namespace.Handle) (s : System) : Action → Option Action
  | .poll k => if k = i then some (.poll 0) else none
  | .fire k =>
      match s.world.jobs[k]? with
      | some job =>
          if job.store = g then
            some (.fire ((s.world.jobs.take k).countP fun job => job.store = g))
          else none
      | none => none
  | _ => none

def own (i : Nat) (g : Namespace.Handle) : List Action → System → List Action
  | [], _ => []
  | action :: actions, s => (s.own? i g action).toList ++ own i g actions (s.act action)

/--
The `i`-th call of the one system and the first call of the other are the same
processing, on `g` there and on `h` here; everything else in the first system is
apart from it.
-/
structure Follows (g h : Namespace.Handle) (i : Nat) (ids : List Nat) (s t : System) :
    Prop where
  sound : s.Sound
  fork : g ∈ s.forks
  mirrors : World.Mirrors (fun _ => False) g h ids s.world t.world
  calls : ∀ (k : Nat) (call : Call), k ≠ i → s.calls[k]? = some (.pending call) →
    call.store? ≠ some g ∧ ∀ cell, call.sleepsOn? = some cell → cell ∉ ids
  jobs : ∀ job ∈ s.world.jobs, job.store ≠ g → job.cell ∉ ids
  twin : ∃ left right, s.calls[i]? = some left ∧ t.calls[0]? = some right ∧
    Poll.Twin (Call.Twin g h ids) left right

variable {g h store : Namespace.Handle} {i : Nat} {cells ids : List Nat} {s s' t t' : System}

theorem Follows.result (f : Follows g h i ids s t) : s.result? i = t.result? 0 := by
  obtain ⟨left, right, hleft, hright, twin⟩ := f.twin
  rw [result?, result?, hleft, hright]
  cases twin with
  | finished result => rfl
  | pending same => rfl

/-! ## What others do -/

theorem store_of_twin {call call' : Call} (twin : Call.Twin g h ids call call') :
    call.store? = some g := by
  cases twin with
  | parsing p file => rfl
  | processing p twin => exact congrArg some twin.store

theorem Follows.apart (f : Follows g h i ids s t) {action : Action}
    (others : s.own? i g action = none) (actor : s.Actor action store cells) :
    store ≠ g ∧ ∀ cell ∈ cells, cell ∉ ids := by
  cases actor with
  | owner listed =>
      refine ⟨?_, by simp⟩
      intro same
      apply (f.sound.processors _ listed).2
      rw [same]
      exact f.fork
  | newcomer new =>
      refine ⟨?_, by simp⟩
      intro same
      apply new
      rw [same]
      exact f.mirrors.valid.1
  | @call k call _ found works =>
      have other : k ≠ i := by
        intro same
        simp [own?, same] at others
      obtain ⟨away, cell⟩ := f.calls k call other found
      constructor
      · intro same
        apply away
        rw [← same]
        exact works
      · intro c hc
        exact cell c (by simpa using hc)
  | @job k job found =>
      have other : job.store ≠ g := by
        intro same
        simp [own?, found, same] at others
      refine ⟨other, ?_⟩
      intro cell hcell
      rw [List.mem_singleton.1 hcell]
      exact f.jobs job (List.mem_of_getElem? found) other

theorem Follows.inside (f : Follows g h i ids s t) {id : Nat} (hid : id ∈ ids) :
    id < s.world.cells.length := by
  obtain ⟨c, link⟩ := List.mem_iff_getElem?.1 hid
  exact (f.mirrors.cells c id link).1

theorem Follows.others (f : Follows g h i ids s t) (change : Change store cells s s')
    (other : store ≠ g) (disjoint : ∀ cell ∈ cells, cell ∉ ids) :
    Follows g h i ids s' t := by
  -- a cell that the actor gets hold of is new or was the actor's before
  have outside : ∀ cell, s.world.cells.length ≤ cell ∨ cell ∈ cells → cell ∉ ids := by
    intro cell hcell hid
    rcases hcell with new | theirs
    · have := f.inside hid
      omega
    · exact disjoint cell theirs hid
  constructor
  · exact f.sound.change change
  · obtain ⟨new, hnew, -⟩ := change.forks
    rw [hnew]
    exact List.mem_append_left _ f.fork
  · exact f.mirrors.confined change.world other disjoint
  · intro k call ne found
    rcases change.calls k call found with old | ⟨works, -, cell⟩
    · exact f.calls k call ne old
    · constructor
      · rw [works]
        simpa using other
      · intro c hc
        exact outside c (cell c hc).2
  · intro job hjob ne
    rcases change.world.left job hjob with old | ⟨-, -, cell⟩
    · exact f.jobs job old ne
    · exact outside job.cell cell
  · obtain ⟨left, right, hleft, hright, twin⟩ := f.twin
    refine ⟨left, right, ?_, hright, twin⟩
    rcases change.kept i left hleft with same | ⟨call, rfl, works⟩
    · exact same
    · cases twin with
      | pending twin =>
          rw [store_of_twin twin] at works
          exact absurd (Option.some.inj works).symm other

/-! ## What the processing does -/

theorem Follows.onward {ids' : List Nat} (f : Follows g h i ids s t)
    (change : Change g cells s s') (still : ∀ k, k ≠ i → s'.calls[k]? = s.calls[k]?)
    (mirrors : World.Mirrors (fun id => id < s.world.cells.length ∧ id ∉ ids) g h ids'
      s'.world t'.world)
    (twin : ∃ left right, s'.calls[i]? = some left ∧ t'.calls[0]? = some right ∧
      Poll.Twin (Call.Twin g h ids') left right) :
    Follows g h i ids' s' t' := by
  constructor
  · exact f.sound.change change
  · obtain ⟨new, hnew, -⟩ := change.forks
    rw [hnew]
    exact List.mem_append_left _ f.fork
  · exact { mirrors with apart := fun _ far => far.elim }
  · intro k call ne found
    rw [still k ne] at found
    obtain ⟨store, -, -, -, inside⟩ := f.sound.calls k call found
    obtain ⟨away, cell⟩ := f.calls k call ne found
    refine ⟨away, ?_⟩
    intro c hc
    exact (mirrors.apart c ⟨inside c hc, cell c hc⟩).2
  · intro job hjob ne
    rcases change.world.left job hjob with old | ⟨here, -⟩
    · have inside := (f.sound.jobs job old).2
      exact (mirrors.apart job.cell ⟨inside, f.jobs job old ne⟩).2
    · exact absurd here ne
  · exact twin

theorem Follows.poll (f : Follows g h i ids s t) :
    ∃ ids', Follows g h i ids' (s.act (.poll i)) (t.act (.poll 0)) := by
  obtain ⟨left, right, hleft, hright, twin⟩ := f.twin
  cases twin with
  | finished result =>
      have idle : s.act (.poll i) = s := by simp only [act, hleft]
      have idle' : t.act (.poll 0) = t := by simp only [act, hright]
      rw [idle, idle']
      exact ⟨ids, f⟩
  | @pending call call' twin =>
      obtain ⟨ids', -, polled, mirrors⟩ := Call.inStep_poll f.mirrors.distant twin
      have change := change_poll f.sound hleft (store_of_twin twin)
      rw [act_poll hleft] at change ⊢
      rw [act_poll hright]
      refine ⟨ids', f.onward change ?_ mirrors ⟨_, _, ?_, ?_, polled⟩⟩
      · intro k ne
        exact List.getElem?_set_ne (Ne.symm ne)
      · exact List.getElem?_set_self (List.getElem?_eq_some_iff.1 hleft).1
      · exact List.getElem?_set_self (List.getElem?_eq_some_iff.1 hright).1

theorem Follows.fire (f : Follows g h i ids s t) {k : Nat} {job : Job}
    (found : s.world.jobs[k]? = some job) (mine : job.store = g) :
    Follows g h i ids (s.act (.fire k))
      (t.act (.fire ((s.world.jobs.take k).countP fun job => job.store = g))) := by
  -- cells that are not one's own count as foreign while the step is taken
  obtain ⟨job', found', twin, mirrors⟩ := f.mirrors.distant.dequeue found mine
  have change := change_fire f.sound found
  rw [mine] at change
  rw [act_fire found] at change ⊢
  rw [act_fire found']
  exact f.onward change (fun _ _ => rfl) (mirrors.runJob mine twin) f.twin

/-! ## In any order -/

theorem Follows.act (f : Follows g h i ids s t) (action : Action) :
    ∃ ids', Follows g h i ids' (s.act action) (t.run (s.own? i g action).toList) := by
  cases mine : s.own? i g action with
  | none =>
      refine ⟨ids, ?_⟩
      rcases acts_act f.sound action with same | ⟨store, cells, actor, change⟩
      · rw [same]
        exact f
      · obtain ⟨other, disjoint⟩ := f.apart mine actor
        exact f.others change other disjoint
  | some left =>
      cases action with
      | poll k =>
          have here : k = i ∧ left = .poll 0 := by
            simpa [own?, eq_comm] using mine
          obtain ⟨rfl, rfl⟩ := here
          exact f.poll
      | fire k =>
          cases found : s.world.jobs[k]? with
          | none => simp [own?, found] at mine
          | some job =>
              by_cases store : job.store = g
              · simp only [own?, found, store, if_pos, Option.some.injEq] at mine
                subst mine
                exact ⟨ids, f.fire found store⟩
              · simp [own?, found, store] at mine
      | _ => simp [own?] at mine

theorem Follows.run (f : Follows g h i ids s t) (actions : List Action) :
    ∃ ids', Follows g h i ids' (s.run actions) (t.run (own i g actions s)) := by
  induction actions generalizing ids s t with
  | nil => exact ⟨ids, f⟩
  | cons action actions ih =>
      obtain ⟨ids', later⟩ := f.act action
      obtain ⟨ids'', last⟩ := ih later
      refine ⟨ids'', ?_⟩
      rw [own, run_append]
      exact last

theorem Sound.jobsOn_fork (sound : s.Sound) (p : Processor) :
    s.world.jobsOn (s.world.fork p.store).1 = [] := by
  have new := (fresh_allocate s.world (s.world.data p.store)).1
  rw [World.jobsOn, List.filter_eq_nil_iff]
  intro job hjob on
  apply new
  have valid := (sound.jobs job hjob).1
  rw [of_decide_eq_true on] at valid
  exact valid

/-- When the call is made, the fork has the contents of the processor's namespace. -/
theorem follows_process (sound : s.Sound) {j : Nat} {p : Processor} {pipeline : Pipeline}
    (found : s.processors[j]? = some p) (frozen : p.state = .frozen pipeline) (file : File) :
    Follows (s.world.fork p.store).1 ⟨1⟩ s.calls.length [] (s.act (.process j file))
      ((alone pipeline (p.data s.world)).act (.process 0 file)) := by
  have kept := sound.act (.process j file)
  have first : (alone pipeline (p.data s.world)).processors[0]? =
      some ⟨.frozen pipeline, ⟨0⟩⟩ := rfl
  obtain ⟨new, here⟩ := fresh_allocate s.world (s.world.data p.store)
  rw [act_process found frozen] at kept ⊢
  rw [act_process first rfl]
  constructor
  · exact kept
  · simp
  · have here' := (fresh_allocate (alone pipeline (p.data s.world)).world (p.data s.world)).2
    refine ⟨⟨here, here'⟩, ?_, List.nodup_nil, rfl, by simp, ?_, fun _ far => far.elim⟩
    · exact Namespace.Heap.read_alloc_self _ _
    · have none := sound.jobsOn_fork p
      exact none ▸ .nil
  · intro k call ne hcall
    refine ⟨?_, by simp⟩
    have old : s.calls[k]? = some (.pending call) := by
      by_cases before : k < s.calls.length
      · rwa [List.getElem?_append_left before] at hcall
      · rw [List.getElem?_eq_none (by simp; omega)] at hcall
        simp at hcall
    obtain ⟨store, works, valid, -⟩ := sound.calls k call old
    rw [works]
    intro same
    rw [Option.some.inj same] at valid
    exact new valid
  · simp
  · exact ⟨_, _, by simp [Call.process], rfl, .pending (.parsing pipeline file)⟩

/-! ## What processing leaves alone -/

/-- The actions that processing consists of, when it is called and later. -/
def Processes (s : System) : Action → Prop
  | .process .. => True
  | .processSync .. => True
  | .poll i => ∃ call, s.calls[i]? = some (.pending call) ∧ call.processes = true
  | .fire k => ∃ job, s.world.jobs[k]? = some job ∧ job.store ∈ s.forks
  | _ => False

theorem change_of_processes (sound : s.Sound) {action : Action} (own : s.Processes action) :
    s.act action = s ∨ ∃ store cells, store ∈ (s.act action).forks ∧
      Change store cells s (s.act action) := by
  cases action with
  | process j file =>
      rcases s.onFrozen_cases j with ⟨p, pipeline, found, frozen⟩ | idle
      · refine .inr ⟨_, [], ?_, change_process found frozen file⟩
        rw [act_process found frozen]
        simp
      · exact .inl (idle _)
  | processSync j file =>
      rcases s.onFrozen_cases j with ⟨p, pipeline, found, frozen⟩ | idle
      · refine .inr ⟨_, [], ?_, change_processSync found frozen file⟩
        rw [act_processSync found frozen]
        simp
      · exact .inl (idle _)
  | poll i =>
      obtain ⟨call, found, processes⟩ := own
      obtain ⟨store, works, -, forked, -⟩ := sound.calls i call found
      refine .inr ⟨store, _, ?_, change_poll sound found works⟩
      rw [act_poll found]
      exact forked processes
  | fire k =>
      obtain ⟨job, found, forked⟩ := own
      refine .inr ⟨job.store, _, ?_, change_fire sound found⟩
      rw [act_fire found]
      exact forked
  | _ => exact own.elim

theorem data_of_processes (sound : s.Sound) {action : Action} (own : s.Processes action)
    {q : Processor} (hq : q ∈ s.processors) :
    q.data (s.act action).world = q.data s.world := by
  rcases change_of_processes sound own with same | ⟨store, cells, forked, change⟩
  · rw [same]
  · obtain ⟨valid, apart⟩ := sound.processors q hq
    apply change.world.data q.store valid
    intro same
    obtain ⟨new, hnew, fresh⟩ := change.forks
    rw [hnew, ← same] at forked
    rcases List.mem_append.1 forked with old | added
    · exact apart old
    · exact (fresh _ added).1 valid

theorem jobs_of_processes (sound : s.Sound) {action : Action} (own : s.Processes action)
    {job : Job} (hjob : job ∈ (s.act action).world.jobs) :
    job ∈ s.world.jobs ∨ job.store ∈ (s.act action).forks := by
  rcases change_of_processes sound own with same | ⟨store, cells, forked, change⟩
  · rw [same] at hjob
    exact .inl hjob
  · rcases change.world.left job hjob with old | ⟨here, -⟩
    · exact .inl old
    · rw [here]
      exact .inr forked

end System

/--
In a system that has come about in any way, let a frozen processor be called to
process a file, and let anything happen then in any order: the call has at any
time the result, if any, that it has when its own steps are taken alone, with
the contents that the processor's namespace had at the call.  And no step of any
processing changes the namespace of a processor, or leaves a job that may.
-/
theorem documents_isolated (before : List Action) :
    let s := System.run before {}
    (∀ (j : Nat) (p : Processor) (pipeline : Pipeline) (file : File) (after : List Action),
      s.processors[j]? = some p → p.state = .frozen pipeline →
      ((s.act (.process j file)).run after).result? s.calls.length =
        ((System.alone pipeline (p.data s.world)).run (.process 0 file ::
          System.own s.calls.length (s.world.fork p.store).1 after
            (s.act (.process j file)))).result? 0) ∧
    ∀ action, s.Processes action →
      (∀ q ∈ s.processors, q.data (s.act action).world = q.data s.world) ∧
      ∀ job ∈ (s.act action).world.jobs,
        job ∈ s.world.jobs ∨ job.store ∈ (s.act action).forks := by
  intro s
  have sound : s.Sound := System.sound_empty.run before
  constructor
  · -- both systems start with the fork alike, and `Follows` goes along with every action
    intro j p pipeline file after found frozen
    have begun := System.follows_process sound found frozen file
    obtain ⟨ids, follows⟩ := begun.run after
    exact follows.result
  · intro action own
    constructor
    · intro q hq
      exact System.data_of_processes sound own hq
    · intro job hjob
      exact System.jobs_of_processes sound own hjob

/-! ## Two documents that mark their namespaces -/

namespace Marking

def plugin : Plugin := ⟨⟨"own", "marking"⟩, "marking"⟩

def transformer : Transformer := .async fun d => do
  Suspending.suspend
  let ns ← Work.suspending Work.data
  if (ns.get? "mark").isSome then return .error (.reason "marked already")
  else
    let _ ← Work.suspending (Work.insert "mark" .null)
    return .ok { document := d }

def book : Book where
  entries := [(plugin.identity, .transformer transformer)]

def before : List Action := [.new, .use 0 (.ofPlugin plugin), .freeze 0 book]

def after : List Action :=
  [.process 0 default, .poll 0, .poll 1, .poll 1, .setData 0 "mark" .null, .poll 0]

def begun : System := System.run before {}

def ended : System := (begun.act (.process 0 default)).run after

def pipeline : Pipeline where
  serial := 0
  registry := Registry.register {} ⟨plugin, [], true⟩
  parser := none
  compiler := none
  transformers := [⟨0, "marking", transformer⟩]

theorem begun_eq : begun = {
    world := { heap := ⟨[{}]⟩, journal := [.attached 0 "marking"], sealings := 1 }
    processors := [⟨.frozen pipeline, ⟨0⟩⟩] } := by
  let used : Processor := ⟨.configuring { registry := pipeline.registry }, ⟨0⟩⟩
  have attached : Setup.attachPending book ⟨used.configuration, {}, []⟩ = _ :=
    (Setup.attachPending_of_ok rfl rfl).trans (Setup.attachPending_of_none rfl)
  have frozen : used.freeze book { heap := ⟨[{}]⟩ } = _ := Processor.freeze_sealed rfl attached
  exact congrArg (fun made : _ × Processor × World =>
    ({ world := made.2.2, processors := [made.2.1] } : System)) frozen

end Marking

/-- Both documents come through, as neither finds the mark of the other or a later one. -/
theorem marking_documents_isolated :
    (Marking.ended.result? 0).map (fun result => result.toOption.isSome) = some true ∧
    (Marking.ended.result? 1).map (fun result => result.toOption.isSome) = some true ∧
    ∃ (p : Processor) (pipeline : Pipeline), Marking.ended.result? 0 =
      ((System.alone pipeline (p.data Marking.begun.world)).run (.process 0 default ::
        System.own 0 (Marking.begun.world.fork p.store).1 Marking.after
          (Marking.begun.act (.process 0 default)))).result? 0 := by
  have found : Marking.begun.processors[0]? = some ⟨.frozen Marking.pipeline, ⟨0⟩⟩ := by
    rw [Marking.begun_eq]
    rfl
  have isolated := (documents_isolated Marking.before).1 0 _ Marking.pipeline default
    Marking.after found rfl
  have first : (System.run Marking.before {}).calls.length = 0 :=
    congrArg (·.calls.length) Marking.begun_eq
  rw [first] at isolated
  refine ⟨?_, ?_, _, Marking.pipeline, isolated⟩
  · rw [Marking.ended, Marking.begun_eq]
    rfl
  · rw [Marking.ended, Marking.begun_eq]
    rfl

end DocPipeline
