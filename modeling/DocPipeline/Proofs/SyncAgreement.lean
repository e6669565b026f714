import DocPipeline.Proofs.Invocations

/-!
# Runs that need not suspend

The entry that puts up with no suspension and a run that may suspend take a
document through the same transformers in the same way, as long as each of them
is settled at once.  They part at the first that is pending: there the one gives
up, and the other goes on with the task or waits.
-/

namespace DocPipeline

def Invocation.isReady : Invocation → Bool
  | .ready _ => true
  | _ => false

/-- The transformers are settled at once, one after the other, and all succeed. -/
inductive Passes (store : Namespace.Handle) :
    List Bound → Document → World → Document → World → Prop
  | nil (d w) : Passes store [] d w d w
  | cons {b rest d v d' w d'' w'} (settled : b.invoke store d w = (.ready (.ok d'), v))
      (passes : Passes store rest d' v d'' w') : Passes store (b :: rest) d w d'' w'

/-- The transformer is reached with a document in a world, and is pending when invoked. -/
structure PendsAfter (store : Namespace.Handle) (before : List Bound) (b : Bound)
    (d : Document) (w : World) (d' : Document) (v : World) : Prop where
  passes : Passes store before d w d' v
  pending : (b.invoke store d' v).1.isReady = false

variable {store : Namespace.Handle} {before rest : List Bound} {b : Bound}
  {d d' : Document} {w v : World} {entry : Entry}

/-! ## Up to the transformer where a run stops -/

theorem Passes.runSync (h : Passes store before d w d' v) :
    DocPipeline.runSync entry store (before ++ rest) d w =
      DocPipeline.runSync entry store rest d' v := by
  induction h with
  | nil d w => rfl
  | cons settled passes ih =>
      rw [List.cons_append, DocPipeline.runSync, settled]
      exact ih

theorem Passes.advance (h : Passes store before d w d' v) :
    Run.advance store (before ++ rest) d w = Run.advance store rest d' v := by
  induction h with
  | nil d w => rfl
  | cons settled passes ih =>
      rw [List.cons_append, Run.advance, settled]
      exact ih

theorem Passes.invokes (h : Passes store before d w d' v) :
    w.Invokes (before.map Bound.key) v := by
  induction h with
  | nil d w => exact .refl w
  | @cons b rest d v d' w d'' w' settled passes ih =>
      have called := b.invokes_invoke store d w
      rw [settled] at called
      exact called.trans ih

/-! ## Where a run stops -/

theorem runSync_of_pending (entry : Entry) (pending : (b.invoke store d w).1.isReady = false) :
    runSync entry store (b :: rest) d w =
      (.error (.asyncUsage entry b.index b.plugin), (b.invoke store d w).2) := by
  rw [runSync]
  cases invoked : b.invoke store d w with
  | mk invocation v =>
      rw [invoked] at pending
      cases invocation with
      | ready result => simp [Invocation.isReady] at pending
      | task task => rfl
      | waiting cell => rfl

theorem runSync_of_failure {e : ProcessorError}
    (failed : b.invoke store d w = (.ready (.error e), v)) :
    runSync entry store (b :: rest) d w = (.error e, v) := by
  rw [runSync, failed]

theorem advance_of_failure {e : ProcessorError}
    (failed : b.invoke store d w = (.ready (.error e), v)) :
    Run.advance store (b :: rest) d w = (.finished (.error e), v) := by
  rw [Run.advance, failed]

/-- A run that may not suspend ends in one of three ways. -/
inductive SyncEnd (store : Namespace.Handle) (transformers : List Bound) (d : Document)
    (w : World) : Prop
  | through {last : Document} {left : World} (passes : Passes store transformers d w last left)
  | failed {done after : List Bound} {c : Bound} {given : Document} {u left : World}
      {e : ProcessorError} (split : transformers = done ++ c :: after)
      (passes : Passes store done d w given u)
      (failed : c.invoke store given u = (.ready (.error e), left))
  | pending {done after : List Bound} {c : Bound} {given : Document} {u : World}
      (split : transformers = done ++ c :: after) (pends : PendsAfter store done c d w given u)

theorem SyncEnd.cons (settled : b.invoke store d w = (.ready (.ok d'), v))
    (h : SyncEnd store rest d' v) : SyncEnd store (b :: rest) d w := by
  cases h with
  | through passes => exact .through (.cons settled passes)
  | failed split passes failed =>
      exact .failed (congrArg (b :: ·) split) (.cons settled passes) failed
  | pending split pends =>
      exact .pending (congrArg (b :: ·) split) ⟨.cons settled pends.passes, pends.pending⟩

theorem syncEnd (store : Namespace.Handle) (transformers : List Bound) (d : Document)
    (w : World) : SyncEnd store transformers d w := by
  induction transformers generalizing d w with
  | nil => exact .through (.nil d w)
  | cons b rest ih =>
      cases invoked : b.invoke store d w with
      | mk invocation v =>
          have here (pending : invocation.isReady = false) :
              SyncEnd store (b :: rest) d w :=
            .pending (List.nil_append _).symm ⟨.nil d w, by rw [invoked]; exact pending⟩
          cases invocation with
          | ready result =>
              cases result with
              | ok d' => exact (ih d' v).cons invoked
              | error e => exact .failed (List.nil_append _).symm (.nil d w) invoked
          | task task => exact here rfl
          | waiting cell => exact here rfl

theorem PendsAfter.runSync (entry : Entry) (h : PendsAfter store before b d w d' v) :
    DocPipeline.runSync entry store (before ++ b :: rest) d w =
      (.error (.asyncUsage entry b.index b.plugin), (b.invoke store d' v).2) := by
  rw [h.passes.runSync, runSync_of_pending entry h.pending]

/-- Failures of transformers are never taken for a suspension. -/
theorem asyncUsage_iff (entry : Entry) (store : Namespace.Handle) (transformers : List Bound)
    (d : Document) (w : World) (named : Entry) (i : Nat) (plugin : String) :
    (runSync entry store transformers d w).1 = .error (.asyncUsage named i plugin) ↔
      named = entry ∧ ∃ before b after d' v, transformers = before ++ b :: after ∧
        b.key = (i, plugin) ∧ PendsAfter store before b d w d' v := by
  constructor
  · intro used
    cases syncEnd store transformers d w with
    | through passes =>
        rw [← List.append_nil transformers, passes.runSync] at used
        simp [runSync] at used
    | failed split passes failed =>
        rw [split, passes.runSync, runSync_of_failure failed] at used
        cases used
        have failure := Bound.failure_of_invoke (congrArg Prod.fst failed)
        cases failure
    | pending split pends =>
        rw [split, pends.runSync] at used
        cases used
        exact ⟨rfl, _, _, _, _, _, split, rfl, pends⟩
  · rintro ⟨rfl, before, b, after, d', v, rfl, key, pends⟩
    rw [pends.runSync]
    cases key
    rfl

theorem poll_of_settled
    (settled : ∀ named i plugin, (runSync entry store rest d w).1 ≠
      .error (.asyncUsage named i plugin)) :
    Run.advance store rest d w =
      (.finished (runSync entry store rest d w).1, (runSync entry store rest d w).2) := by
  cases syncEnd store rest d w with
  | through passes =>
      rw [← List.append_nil rest, passes.runSync, passes.advance]
      rfl
  | failed split passes failed =>
      rw [split, passes.runSync, passes.advance, runSync_of_failure failed,
        advance_of_failure failed]
  | pending split pends =>
      rw [split, pends.runSync] at settled
      exact absurd rfl (settled entry _ _)

/--
For any transformers, document and world: if the entry that may not suspend does
not report a suspension, then a run over the same ends at its first poll, with
the same result and leaving the same world, hence the same invocations and the
same namespace.  A suspension is reported exactly for the first transformer that
is pending once all before it were settled with success; then a run gets to that
transformer with the same document in the same world, and the entry leaves the
world as the invocation did, having invoked nothing else.
-/
theorem sync_agrees_with_run (entry : Entry) (store : Namespace.Handle)
    (transformers : List Bound) (d : Document) (w : World) :
    let sync := runSync entry store transformers d w
    let run : Run := ⟨store, transformers, .at d⟩
    ((∀ named i plugin, sync.1 ≠ .error (.asyncUsage named i plugin)) →
      run.poll w = (.finished sync.1, sync.2)) ∧
    (∀ named i plugin, sync.1 = .error (.asyncUsage named i plugin) ↔
      named = entry ∧ ∃ before b after d' v, transformers = before ++ b :: after ∧
        b.key = (i, plugin) ∧ PendsAfter store before b d w d' v) ∧
    ∀ before b after d' v, transformers = before ++ b :: after →
      PendsAfter store before b d w d' v →
      run.poll w = Run.poll ⟨store, b :: after, .at d'⟩ v ∧
        sync.2 = (b.invoke store d' v).2 ∧
        w.Invokes ((before ++ [b]).map Bound.key) sync.2 := by
  intro sync run
  refine ⟨poll_of_settled, asyncUsage_iff entry store transformers d w, ?_⟩
  rintro before b after d' v rfl pends
  have left : sync.2 = (b.invoke store d' v).2 := congrArg Prod.snd (pends.runSync entry)
  refine ⟨pends.passes.advance, left, ?_⟩
  rw [left, List.map_append]
  exact pends.passes.invokes.trans (b.invokes_invoke store d' v)

/-! ## A mixed list of transformers -/

namespace Mixed

def marking : Bound where
  index := 0
  plugin := "marking"
  transformer := .sync fun d => do
    let _ ← Work.insert "mark" .null
    return .ok { document := d, replacement := some .root }

def calling : Bound where
  index := 1
  plugin := "calling"
  transformer := .callback fun d => do
    let _ ← Completing.calling (Completing.complete (.ok d))
    return .ok ()

def pausing : Bound where
  index := 4
  plugin := "pausing"
  transformer := .async fun d => do
    Suspending.suspend
    return .ok { document := d }

def transformers : List Bound := [marking, calling, pausing, marking]

def world : World := { heap := ⟨[{}]⟩ }

/-- What a run that may not suspend leaves of the world. -/
def left : World := (runSync .runSync ⟨0⟩ transformers default world).2

end Mixed

/-- The first two are settled at once, the third is not, and the fourth is never invoked. -/
theorem mixed_sync_agrees :
    (Run.poll ⟨⟨0⟩, [Mixed.marking, Mixed.calling], .at default⟩ Mixed.world).1 =
      .finished (runSync .runSync ⟨0⟩ [Mixed.marking, Mixed.calling] default Mixed.world).1 ∧
    (runSync .runSync ⟨0⟩ Mixed.transformers default Mixed.world).1 =
      .error (.asyncUsage .runSync 4 "pausing") ∧
    Mixed.world.Invokes [(0, "marking"), (1, "calling"), (4, "pausing")] Mixed.left := by
  have pends : ∃ d v, PendsAfter ⟨0⟩ [Mixed.marking, Mixed.calling] Mixed.pausing default
      Mixed.world d v :=
    ⟨_, _, .cons rfl (.cons rfl (.nil _ _)), rfl⟩
  obtain ⟨d, v, pends⟩ := pends
  refine ⟨?_, ?_, ?_⟩
  · have agrees := (sync_agrees_with_run .runSync ⟨0⟩ [Mixed.marking, Mixed.calling] default
      Mixed.world).1 (fun _ _ _ used => nomatch used)
    rw [agrees]
  · exact ((sync_agrees_with_run .runSync ⟨0⟩ Mixed.transformers default Mixed.world).2.1 _ _
      _).2 ⟨rfl, _, _, _, _, _, rfl, rfl, pends⟩
  · exact ((sync_agrees_with_run .runSync ⟨0⟩ Mixed.transformers default Mixed.world).2.2 _ _
      [Mixed.marking] d v rfl pends).2.2

end DocPipeline
