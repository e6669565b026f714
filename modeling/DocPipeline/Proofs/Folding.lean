import DocPipeline.Proofs.Invocations
import DocPipeline.Proofs.Schedules

/-!
# Folding over transformers

What it means that a transformer completes, whatever its style and however long
it takes, and that a list of transformers is folded over: each is given the
document that the one before it completed with, up to the first that fails.
Both depend on nothing but what a schedule records of the time between polls.
-/

namespace DocPipeline

/-! ## How a transformer completes -/

/-- An edit in place stands unless another tree is given for it. -/
inductive Bound.Replaces (b : Bound) : Except Cause Edit → Settled → Prop
  | keep (edited : Document) : Replaces b (.ok ⟨edited, none⟩) (.ok edited)
  | replace (edited : Document) (tree : Node) :
      Replaces b (.ok ⟨edited, some tree⟩) (.ok ⟨tree, edited.file⟩)
  | fail (source : Cause) :
      Replaces b (.error source) (.error (.transform b.index b.plugin source))

/--
A program that may suspend is carried to its end, over the intervals for which
it is suspended.  The writes are its own and those made meanwhile; the intervals
that it did not need are left.
-/
inductive Carried (store : Namespace.Handle) {α : Type} :
    Program Suspending α → World → List Interval → List Write → α → World →
      List Interval → Prop
  | done (a w ms) : Carried store (.done a) w ms [] a w ms
  | work {op next w ms writes a v ns}
      (rest : Carried store (next (w.work store op).1) (w.work store op).2 ms writes a v ns) :
      Carried store (.perform (.work op) next) w ms (op.write?.toList ++ writes) a v ns
  | suspend {next w m ms writes a v ns} (after : m.After store w)
      (rest : Carried store (next ()) m.world ms writes a v ns) :
      Carried store (.perform .suspend next) w (m :: ms) (m.writes ++ writes) a v ns

/-- Intervals go by in vain, up to the first that brings an answer. -/
inductive Awaited (store : Namespace.Handle) (answer? : Interval → Option Settled) :
    World → List Interval → List Write → Settled → World → List Interval → Prop
  | woken {w m ms result} (after : m.After store w) (answered : answer? m = some result) :
      Awaited store answer? w (m :: ms) m.writes result m.world ms
  | vain {w m ms writes result v ns} (after : m.After store w) (silent : answer? m = none)
      (rest : Awaited store answer? m.world ms writes result v ns) :
      Awaited store answer? w (m :: ms) (m.writes ++ writes) result v ns

namespace Bound

def called (b : Bound) (w : World) : World := w.record (.invoked b.index b.plugin)

/-- What the step gets as soon as the closure of a callback has returned. -/
def atReturn? (b : Bound) (store : Namespace.Handle)
    (closure : Program Calling (Except Cause Unit)) (w : World) : Option Settled :=
  b.verdict? (b.early store closure w) (b.returned store closure w) []
    (b.copies store closure w)

/--
What an interval brings to a transformer that waits for its cell: the result of
the first call made on the cell, or that there will be none, since no handle is
left.
-/
def answer? (b : Bound) (cell : Nat) (m : Interval) : Option Settled :=
  match callsOn cell m.calls with
  | first :: _ => some (first.mapError b.failed)
  | [] =>
      if (m.world.cell cell).handles = 0 then some (.error (.abandoned b.index b.plugin))
      else none

end Bound

/--
A transformer, invoked with a document in a world, completes with a result.  A
callback has completed as soon as there is a verdict on the calls made before it
returned, or else with the first interval that brings an answer.
-/
inductive Completes (store : Namespace.Handle) (b : Bound) (d : Document) (w : World) :
    Transformer → List Interval → List Write → Settled → World → List Interval → Prop
  | sync {run returned result v ms}
      (ran : (run d).run (World.work store) (b.called w) = (returned, v))
      (replaces : b.Replaces returned result) :
      Completes store b d w (.sync run) ms
        (Program.writes Work.Op.write? ((run d).trace (World.work store) (b.called w)))
        result v ms
  | async {run ms writes returned result v ns}
      (carried : Carried store (run d) (b.called w) ms writes returned v ns)
      (replaces : b.Replaces returned result) :
      Completes store b d w (.async run) ms writes result v ns
  | future {start task u ms writes returned v ns}
      (started : (start d).run (World.work store) (b.called w) = (task, u))
      (carried : Carried store task u ms writes returned v ns) :
      Completes store b d w (.future start) ms
        (Program.writes Work.Op.write? ((start d).trace (World.work store) (b.called w)) ++
          writes)
        (returned.mapError b.failed) v ns
  | returned {run result ms}
      (verdict : b.atReturn? store (run d) (b.called w) = some result) :
      Completes store b d w (.callback run) ms
        (Program.writes Calling.Op.write? (b.steps store (run d) (b.called w)))
        result (b.invokeCallback store (run d) (b.called w)).2 ms
  | later {run ms meanwhile result v ns}
      (pending : b.atReturn? store (run d) (b.called w) = none)
      (awaited : Awaited store (b.answer? (b.called w).cells.length)
        (b.invokeCallback store (run d) (b.called w)).2 ms meanwhile result v ns) :
      Completes store b d w (.callback run) ms
        (Program.writes Calling.Op.write? (b.steps store (run d) (b.called w)) ++ meanwhile)
        result v ns

/--
The fold over intervals of which none is left at the end, with the transformers
invoked and the document that each was given.
-/
inductive Folds (store : Namespace.Handle) :
    List Bound → Document → World → List Interval → List (Bound × Document) → List Write →
      Settled → World → Prop
  | nil (d w) : Folds store [] d w [] [] [] (.ok d) w
  | next {b rest d w ms writes d' v ns invoked more result w'}
      (completes : Completes store b d w b.transformer ms writes (.ok d') v ns)
      (folds : Folds store rest d' v ns invoked more result w') :
      Folds store (b :: rest) d w ms ((b, d) :: invoked) (writes ++ more) result w'
  | failed {b rest d w ms writes e w'}
      (completes : Completes store b d w b.transformer ms writes (.error e) w' []) :
      Folds store (b :: rest) d w ms [(b, d)] writes (.error e) w'

/-! ## What is written -/

variable {store : Namespace.Handle} {b : Bound} {t : Transformer}
  {rest transformers : List Bound} {d : Document} {w v u w' : World}
  {ms ns : List Interval} {writes meanwhile : List Write}
  {invoked : List (Bound × Document)} {settled result : Settled}

theorem Carried.written {α : Type} {p : Program Suspending α} {a : α}
    (h : Carried store p w ms writes a v ns) : World.Written store w writes v := by
  induction h with
  | done a w ms => exact .refl w
  | work rest ih => exact (World.written_work _).trans ih
  | suspend after rest ih => exact after.written.trans ih

theorem Awaited.written {answer? : Interval → Option Settled}
    (h : Awaited store answer? w ms writes result v ns) : World.Written store w writes v := by
  induction h with
  | woken after answered => exact after.written
  | vain after silent rest ih => exact after.written.trans ih

namespace Bound

theorem written_called (b : Bound) (w : World) : World.Written store w [] (b.called w) :=
  .of_heap rfl

theorem written_invokeCallback (closure : Program Calling (Except Cause Unit)) :
    World.Written store w (Program.writes Calling.Op.write? (b.steps store closure w))
      (b.invokeCallback store closure w).2 := by
  have entered : World.Written store w [] (b.entered w) := .of_heap rfl
  have ran := entered.trans (World.written_run Calling.Op.write?
    (fun op _ => World.written_calling store w.cells.length op) closure)
  rw [invokeCallback_eq, conclude_cells]
  exact ran.trans_nil (.of_heap rfl)

theorem written_work {α : Type} {p : Program Work α} {a : α}
    (ran : p.run (World.work store) (b.called w) = (a, v)) :
    World.Written store w
      (Program.writes Work.Op.write? (p.trace (World.work store) (b.called w))) v := by
  have called : World.Written store w [] (b.called w) := b.written_called w
  have written := called.trans
    (World.written_run Work.Op.write? (fun op _ => World.written_work op) p)
  rwa [ran] at written

end Bound

theorem Completes.written (h : Completes store b d w t ms writes result v ns) :
    World.Written store w writes v := by
  have called : World.Written store w [] (b.called w) := b.written_called w
  cases h with
  | sync ran replaces => exact Bound.written_work ran
  | async carried replaces => exact called.trans carried.written
  | future started carried => exact (Bound.written_work started).trans carried.written
  | returned verdict => exact called.trans (Bound.written_invokeCallback _)
  | later pending awaited =>
      exact (called.trans (Bound.written_invokeCallback _)).trans awaited.written

theorem Folds.written (h : Folds store transformers d w ms invoked writes result v) :
    World.Written store w writes v := by
  induction h with
  | nil d w => exact .refl w
  | next completes folds ih => exact completes.written.trans ih
  | failed completes => exact completes.written

/-! ## Who is to blame -/

theorem Bound.failure_of_answer {cell : Nat} {m : Interval} {e : ProcessorError}
    (answered : b.answer? cell m = some (.error e)) : b.Failure e := by
  unfold answer? at answered
  split at answered
  · exact failure_of_mapError (Option.some.inj answered)
  · split at answered
    · cases answered
      exact .abandoned
    · simp at answered

theorem Awaited.answered {answer? : Interval → Option Settled}
    (h : Awaited store answer? w ms writes result v ns) : ∃ m, answer? m = some result := by
  induction h with
  | woken after answered => exact ⟨_, answered⟩
  | vain after silent rest ih => exact ih

theorem Bound.Replaces.failure {returned : Except Cause Edit} {e : ProcessorError}
    (h : b.Replaces returned (.error e)) : b.Failure e := by
  cases h with
  | fail source => exact .transform source

theorem Completes.failure {e : ProcessorError}
    (h : Completes store b d w t ms writes (.error e) v ns) : b.Failure e := by
  generalize hresult : (.error e : Settled) = result at h
  cases h with
  | sync ran replaces => exact (hresult ▸ replaces).failure
  | async carried replaces => exact (hresult ▸ replaces).failure
  | future started carried => exact Bound.failure_of_mapError hresult.symm
  | returned verdict => exact Bound.failure_of_verdict (hresult ▸ verdict)
  | later pending awaited =>
      obtain ⟨m, answered⟩ := awaited.answered
      exact Bound.failure_of_answer (hresult ▸ answered)

theorem Folds.invoked_prefix (h : Folds store transformers d w ms invoked writes result v) :
    invoked.map Prod.fst <+: transformers := by
  induction h with
  | nil d w => exact List.prefix_rfl
  | next completes folds ih => exact List.cons_prefix_cons.2 ⟨rfl, ih⟩
  | failed completes => exact List.cons_prefix_cons.2 ⟨rfl, List.nil_prefix⟩

theorem Folds.all_invoked {last : Document}
    (h : Folds store transformers d w ms invoked writes (.ok last) v) :
    invoked.map Prod.fst = transformers := by
  generalize hresult : (.ok last : Settled) = result at h
  induction h with
  | nil d w => rfl
  | next completes folds ih => exact congrArg (_ :: ·) (ih hresult)
  | failed completes => cases hresult

theorem Folds.last_failed {e : ProcessorError}
    (h : Folds store transformers d w ms invoked writes (.error e) v) :
    ∃ before b d', invoked = before ++ [(b, d')] ∧ b.Failure e := by
  generalize hresult : (.error e : Settled) = result at h
  induction h with
  | nil d w => cases hresult
  | @next b rest d w ms writes d' v ns invoked more result w' completes folds ih =>
      obtain ⟨before, c, given, rfl, failure⟩ := ih hresult
      exact ⟨(b, d) :: before, c, given, rfl, failure⟩
  | @failed b rest d w ms writes e' w' completes =>
      cases hresult
      exact ⟨[], b, d, rfl, completes.failure⟩

/-! ## No fold but one -/

theorem Bound.Replaces.unique {returned : Except Cause Edit} {result' : Settled}
    (h : b.Replaces returned result) (h' : b.Replaces returned result') : result = result' := by
  cases h <;> cases h' <;> rfl

theorem Carried.unique {α : Type} {p : Program Suspending α} {a a' : α} {v' : World}
    {writes' : List Write} {ns' : List Interval} (h : Carried store p w ms writes a v ns)
    (h' : Carried store p w ms writes' a' v' ns') :
    writes = writes' ∧ a = a' ∧ v = v' ∧ ns = ns' := by
  induction h generalizing writes' with
  | done a w ms =>
      cases h'
      exact ⟨rfl, rfl, rfl, rfl⟩
  | work rest ih =>
      cases h' with
      | work rest' =>
          obtain ⟨rfl, same⟩ := ih rest'
          exact ⟨rfl, same⟩
  | suspend after rest ih =>
      cases h' with
      | suspend after' rest' =>
          obtain ⟨rfl, same⟩ := ih rest'
          exact ⟨rfl, same⟩

theorem Awaited.unique {answer? : Interval → Option Settled} {result' : Settled}
    {v' : World} {writes' : List Write} {ns' : List Interval}
    (h : Awaited store answer? w ms writes result v ns)
    (h' : Awaited store answer? w ms writes' result' v' ns') :
    writes = writes' ∧ result = result' ∧ v = v' ∧ ns = ns' := by
  induction h generalizing writes' with
  | woken after answered =>
      cases h' with
      | woken after' answered' =>
          exact ⟨rfl, Option.some.inj (answered.symm.trans answered'), rfl, rfl⟩
      | vain after' silent rest => simp [answered] at silent
  | vain after silent rest ih =>
      cases h' with
      | woken after' answered => simp [answered] at silent
      | vain after' silent' rest' =>
          obtain ⟨rfl, same⟩ := ih rest'
          exact ⟨rfl, same⟩

theorem Completes.unique {result' : Settled} {v' : World} {writes' : List Write}
    {ns' : List Interval} (h : Completes store b d w t ms writes result v ns)
    (h' : Completes store b d w t ms writes' result' v' ns') :
    writes = writes' ∧ result = result' ∧ v = v' ∧ ns = ns' := by
  cases h with
  | sync ran replaces =>
      cases h' with
      | sync ran' replaces' =>
          obtain ⟨rfl, rfl⟩ := Prod.mk.inj (ran.symm.trans ran')
          exact ⟨rfl, replaces.unique replaces', rfl, rfl⟩
  | async carried replaces =>
      cases h' with
      | async carried' replaces' =>
          obtain ⟨rfl, rfl, same⟩ := carried.unique carried'
          exact ⟨rfl, replaces.unique replaces', same⟩
  | future started carried =>
      cases h' with
      | future started' carried' =>
          obtain ⟨rfl, rfl⟩ := Prod.mk.inj (started.symm.trans started')
          obtain ⟨rfl, rfl, same⟩ := carried.unique carried'
          exact ⟨rfl, rfl, same⟩
  | returned verdict =>
      cases h' with
      | returned verdict' =>
          exact ⟨rfl, Option.some.inj (verdict.symm.trans verdict'), rfl, rfl⟩
      | later pending awaited => simp [verdict] at pending
  | later pending awaited =>
      cases h' with
      | returned verdict => simp [verdict] at pending
      | later pending' awaited' =>
          obtain ⟨rfl, same⟩ := awaited.unique awaited'
          exact ⟨rfl, same⟩

theorem Folds.unique {invoked' : List (Bound × Document)} {writes' : List Write}
    {result' : Settled} {v' : World} (h : Folds store transformers d w ms invoked writes result v)
    (h' : Folds store transformers d w ms invoked' writes' result' v') :
    invoked = invoked' ∧ writes = writes' ∧ result = result' ∧ v = v' := by
  induction h generalizing invoked' writes' with
  | nil d w =>
      cases h'
      exact ⟨rfl, rfl, rfl, rfl⟩
  | next completes folds ih =>
      cases h' with
      | next completes' folds' =>
          obtain ⟨rfl, given, rfl, rfl⟩ := completes.unique completes'
          cases given
          obtain ⟨rfl, rfl, same⟩ := ih folds'
          exact ⟨rfl, rfl, same⟩
      | failed completes' => cases (completes.unique completes').2.1
  | failed completes =>
      cases h' with
      | next completes' folds' => cases (completes.unique completes').2.1
      | failed completes' =>
          obtain ⟨rfl, failure, same, -⟩ := completes.unique completes'
          exact ⟨rfl, rfl, failure, same⟩

/-! ## Invoking a transformer and going on with it -/

theorem carried_of_resume {α : Type} {p : Program Suspending α} {a : α} (ms : List Interval)
    (h : w.resume store p = (.inl a, v)) : ∃ writes, Carried store p w ms writes a v ms := by
  induction p generalizing w with
  | done a' =>
      cases h
      exact ⟨[], .done _ _ _⟩
  | perform op next ih =>
      cases op with
      | work op =>
          obtain ⟨writes, rest⟩ := ih _ h
          exact ⟨_, .work rest⟩
      | suspend => simp [World.resume] at h

theorem carried_of_suspended {α : Type} {p q : Program Suspending α} {a : α} {m : Interval}
    (h : w.resume store p = (.inr q, v)) (after : m.After store v)
    (rest : Carried store q m.world ms writes a w' ns) :
    ∃ all, Carried store p w (m :: ms) all a w' ns := by
  induction p generalizing w with
  | done a' => simp [World.resume] at h
  | perform op next ih =>
      cases op with
      | work op =>
          obtain ⟨all, later⟩ := ih _ h
          exact ⟨_, .work later⟩
      | suspend =>
          simp only [World.resume, Prod.mk.injEq, Sum.inr.injEq] at h
          obtain ⟨rfl, rfl⟩ := h
          exact ⟨_, .suspend after rest⟩

theorem carried_of_map {α β : Type} {f : α → β} {p : Program Suspending α} {a : β}
    (h : Carried store (f <$> p) w ms writes a v ns) :
    ∃ returned, Carried store p w ms writes returned v ns ∧ f returned = a := by
  induction p generalizing w ms writes with
  | done a' =>
      cases h
      exact ⟨_, .done _ _ _, rfl⟩
  | perform op next ih =>
      cases op with
      | work op =>
          cases h with
          | work rest =>
              obtain ⟨returned, carried, same⟩ := ih _ rest
              exact ⟨returned, .work carried, same⟩
      | suspend =>
          cases h with
          | suspend after rest =>
              obtain ⟨returned, carried, same⟩ := ih _ rest
              exact ⟨returned, .suspend after carried, same⟩

theorem Bound.replaces_settleEdit (b : Bound) (returned : Except Cause Edit) :
    b.Replaces returned (b.settleEdit returned) := by
  cases returned with
  | error source => exact .fail source
  | ok e =>
      obtain ⟨edited, replacement⟩ := e
      cases replacement with
      | none => exact .keep edited
      | some tree => exact .replace edited tree

theorem Bound.invoke_callback {run : Document → Program Calling (Except Cause Unit)}
    (style : b.transformer = .callback run) :
    b.invoke store d w =
      (announce (b.called w).cells.length (b.atReturn? store (run d) (b.called w)),
        (b.invokeCallback store (run d) (b.called w)).2) := by
  unfold invoke
  rw [style]
  exact Prod.ext (b.invokeCallback_tells store (run d) (b.called w)).2 rfl

theorem completes_of_ready (ms : List Interval) (h : b.invoke store d w = (.ready result, v)) :
    ∃ writes, Completes store b d w b.transformer ms writes result v ms := by
  cases style : b.transformer with
  | sync run =>
      simp only [Bound.invoke, style, Prod.mk.injEq, Invocation.ready.injEq] at h
      obtain ⟨rfl, rfl⟩ := h
      exact ⟨_, .sync rfl (b.replaces_settleEdit _)⟩
  | async run => simp [Bound.invoke, style] at h
  | future start => simp [Bound.invoke, style] at h
  | callback run =>
      rw [Bound.invoke_callback style, Prod.mk.injEq] at h
      obtain ⟨ready, rfl⟩ := h
      exact ⟨_, .returned (Bound.ready_of_announce ready)⟩

theorem completes_of_task {task : Task} (h : b.invoke store d w = (.task task, u))
    (carried : Carried store task u ms writes result v ns) :
    ∃ all, Completes store b d w b.transformer ms all result v ns := by
  cases style : b.transformer with
  | sync run => simp [Bound.invoke, style] at h
  | async run =>
      simp only [Bound.invoke, style, Prod.mk.injEq, Invocation.task.injEq] at h
      obtain ⟨rfl, rfl⟩ := h
      obtain ⟨returned, own, rfl⟩ := carried_of_map carried
      exact ⟨_, .async own (b.replaces_settleEdit returned)⟩
  | future start =>
      simp only [Bound.invoke, style, Prod.mk.injEq, Invocation.task.injEq] at h
      obtain ⟨rfl, rfl⟩ := h
      obtain ⟨returned, own, rfl⟩ := carried_of_map carried
      exact ⟨_, .future rfl own⟩
  | callback run =>
      rw [Bound.invoke_callback style] at h
      cases verdict : b.atReturn? store (run d) (b.called w) <;>
        simp [verdict, Bound.announce] at h

/-! ## Waiting for a cell -/

/-- The outcome that a poll finds is the answer that the interval before it brings. -/
theorem Bound.outcome_of_after {cell handles : Nat} {m : Interval}
    (told : w.Tells cell b.index b.plugin false [] handles) (after : m.After store w) :
    m.world.outcome? cell = b.answer? cell m ∧ (b.answer? cell m = none →
      ∃ handles', m.world.Tells cell b.index b.plugin false [] handles') := by
  obtain ⟨attempts, handles', left, called⟩ := after.tells told
  rw [List.map_nil, List.nil_append] at called
  have outcome : m.world.outcome? cell = _ := left.2.outcome
  rw [outcome, Bound.answer?, ← called, left.2.handles]
  cases attempts with
  | nil => exact ⟨rfl, fun _ => ⟨handles', left⟩⟩
  | cons first rest => exact ⟨rfl, fun silent => nomatch silent⟩

theorem Awaited.of_outcome {cell handles : Nat}
    (told : w.Tells cell b.index b.plugin false [] handles)
    (h : Awaited store (fun m => m.world.outcome? cell) w ms writes result v ns) :
    Awaited store (b.answer? cell) w ms writes result v ns := by
  induction h generalizing handles with
  | woken after answered =>
      exact .woken after ((Bound.outcome_of_after told after).1.symm.trans answered)
  | vain after silent rest ih =>
      -- a poll in vain leaves the cell without a call, so the first is still to come
      obtain ⟨same, waits⟩ := Bound.outcome_of_after told after
      have unanswered := same.symm.trans silent
      obtain ⟨handles', told'⟩ := waits unanswered
      exact .vain after unanswered (ih told')

/-- Without a verdict, the closure has returned with neither a failure nor a call. -/
theorem Bound.quiet_of_verdict {early : List Attempt} {returned : Except Cause Unit}
    {handles : Nat} (pending : b.verdict? early returned [] handles = none) :
    early = [] ∧ returned = .ok () := by
  match early, returned with
  | [], .ok () => exact ⟨rfl, rfl⟩
  | [], .error source => cases pending
  | [first], .ok () => cases pending
  | [first], .error source => cases pending
  | first :: second :: more, returned => cases pending

theorem Bound.tells_of_pending {closure : Program Calling (Except Cause Unit)}
    (pending : b.atReturn? store closure w = none) :
    (b.invokeCallback store closure w).2.Tells w.cells.length b.index b.plugin false []
      (b.copies store closure w) := by
  obtain ⟨early, returned⟩ := quiet_of_verdict pending
  have told := (b.invokeCallback_tells store closure w).1
  rw [early, returned] at told
  exact told

theorem completes_of_waiting {cell : Nat} (h : b.invoke store d w = (.waiting cell, u))
    (awaited : Awaited store (fun m => m.world.outcome? cell) u ms writes result v ns) :
    ∃ all, Completes store b d w b.transformer ms all result v ns := by
  cases style : b.transformer with
  | sync run => simp [Bound.invoke, style] at h
  | async run => simp [Bound.invoke, style] at h
  | future start => simp [Bound.invoke, style] at h
  | callback run =>
      rw [Bound.invoke_callback style] at h
      cases verdict : b.atReturn? store (run d) (b.called w) with
      | some settled => simp [verdict, Bound.announce] at h
      | none =>
          simp only [verdict, Bound.announce, Prod.mk.injEq, Invocation.waiting.injEq] at h
          obtain ⟨rfl, rfl⟩ := h
          exact ⟨_, .later verdict (awaited.of_outcome (Bound.tells_of_pending verdict))⟩

end DocPipeline
