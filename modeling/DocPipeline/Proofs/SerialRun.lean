import DocPipeline.Proofs.Folding

/-!
# A run is a fold over its transformers

However often and whenever a run is polled, whichever jobs fire in between, and
whatever else goes on, the transformers are invoked one after the other, each
with the document that the one before it completed with, up to the first that
fails.  Nothing that has been written by then is undone.
-/

namespace DocPipeline

def keys (invoked : List (Bound × Document)) : List (Nat × String) :=
  invoked.map fun call => call.1.key

/-! ## What a run still does -/

/-- What follows a transformer that completed: the rest of the fold, or the end. -/
inductive Onward (store : Namespace.Handle) (rest : List Bound) :
    Settled → World → List Interval → List (Bound × Document) → List Write → Settled → World →
      Prop
  | ok {d v ms invoked writes result w'}
      (folds : Folds store rest d v ms invoked writes result w') :
      Onward store rest (.ok d) v ms invoked writes result w'
  | error (e v) : Onward store rest (.error e) v [] [] [] (.error e) v

/-- Over the intervals that come, a run invokes these transformers and comes to a result. -/
inductive Run.Continues :
    Run → World → List Interval → List (Bound × Document) → Settled → World → Prop
  | begun {store rest d w m ms invoked writes result w'} (after : m.After store w)
      (folds : Folds store rest d m.world ms invoked writes result w') :
      Continues ⟨store, rest, .at d⟩ w (m :: ms) invoked result w'
  | within {store rest task w m ms first settled v ns invoked more result w'}
      (after : m.After store w) (carried : Carried store task m.world ms first settled v ns)
      (onward : Onward store rest settled v ns invoked more result w') :
      Continues ⟨store, rest, .task task⟩ w (m :: ms) invoked result w'
  | asleep {store rest cell w ms first settled v ns invoked more result w'}
      (awaited : Awaited store (fun m => m.world.outcome? cell) w ms first settled v ns)
      (onward : Onward store rest settled v ns invoked more result w') :
      Continues ⟨store, rest, .waiting cell⟩ w ms invoked result w'

inductive Poll.Continues : Poll Run Document × World → List Interval →
    List (Bound × Document) → Settled → World → Prop
  | finished (result w') : Continues (.finished result, w') [] [] result w'
  | pending {run v ms invoked result w'} (continues : run.Continues v ms invoked result w') :
      Continues (.pending run, v) ms invoked result w'

variable {store : Namespace.Handle} {b : Bound} {rest : List Bound} {d : Document}
  {w v u w' : World} {ms ns : List Interval} {writes more : List Write}
  {invoked : List (Bound × Document)} {settled result : Settled}

theorem folds_of_completes
    (completes : Completes store b d w b.transformer ms writes settled v ns)
    (onward : Onward store rest settled v ns invoked more result w') :
    ∃ all, Folds store (b :: rest) d w ms ((b, d) :: invoked) all result w' := by
  cases onward with
  | ok folds => exact ⟨_, .next completes folds⟩
  | error e => exact ⟨_, .failed completes⟩

theorem onward_of_task {task : Task}
    (further : ∀ {d v}, Poll.Continues (Run.advance store rest d v) ms invoked result w' →
      ∃ new writes, v.Invokes (keys new) (Run.advance store rest d v).2 ∧
        Folds store rest d v ms (new ++ invoked) writes result w')
    (continues : Poll.Continues (Run.poll ⟨store, rest, .task task⟩ w) ms invoked result w') :
    ∃ new writes settled u ns more,
      w.Invokes (keys new) (Run.poll ⟨store, rest, .task task⟩ w).2 ∧
      Carried store task w ms writes settled u ns ∧
      Onward store rest settled u ns (new ++ invoked) more result w' := by
  have resumed : w.Invokes [] (w.resume store task).2 := World.invokes_resume task
  cases hresume : w.resume store task with
  | mk progress v =>
      rw [hresume] at resumed
      simp only [Run.poll, hresume] at continues ⊢
      cases progress with
      | inl settled =>
          obtain ⟨writes, carried⟩ := carried_of_resume ms hresume
          cases settled with
          | ok d =>
              obtain ⟨new, more, called, folds⟩ := further continues
              exact ⟨new, writes, _, v, ms, more, resumed.trans called, carried, .ok folds⟩
          | error e =>
              cases continues
              exact ⟨[], writes, _, _, [], [], resumed, carried, .error e _⟩
      | inr task' =>
          cases continues with
          | pending continues =>
              cases continues with
              | within after carried onward =>
                  obtain ⟨writes, whole⟩ := carried_of_suspended hresume after carried
                  exact ⟨[], writes, _, _, _, _, resumed, whole, onward⟩

theorem folds_of_advance
    (continues : Poll.Continues (Run.advance store rest d w) ms invoked result w') :
    ∃ new writes, w.Invokes (keys new) (Run.advance store rest d w).2 ∧
      Folds store rest d w ms (new ++ invoked) writes result w' := by
  induction rest generalizing d w with
  | nil =>
      cases continues
      exact ⟨[], [], .refl _, .nil _ _⟩
  | cons b rest ih =>
      have called := b.invokes_invoke store d w
      cases hinvoke : b.invoke store d w with
      | mk invocation v =>
          rw [hinvoke] at called
          simp only [Run.advance, hinvoke] at continues ⊢
          cases invocation with
          | ready settled =>
              obtain ⟨first, completes⟩ := completes_of_ready ms hinvoke
              cases settled with
              | ok d' =>
                  obtain ⟨new, writes, more, folds⟩ := ih continues
                  exact ⟨(b, d) :: new, _, called.trans more, .next completes folds⟩
              | error e =>
                  cases continues
                  exact ⟨[(b, d)], _, called, .failed completes⟩
          | waiting cell =>
              -- the run sleeps; the fold takes up where the cell has an outcome
              cases continues with
              | pending continues =>
                  cases continues with
                  | asleep awaited onward =>
                      obtain ⟨first, completes⟩ := completes_of_waiting hinvoke awaited
                      obtain ⟨all, folds⟩ := folds_of_completes completes onward
                      exact ⟨[(b, d)], all, called, folds⟩
          | task task =>
              obtain ⟨new, _, settled, u, _, _, more, carried, onward⟩ :=
                onward_of_task ih continues
              obtain ⟨first, completes⟩ := completes_of_task hinvoke carried
              obtain ⟨all, folds⟩ := folds_of_completes completes onward
              exact ⟨(b, d) :: new, all, called.trans more, folds⟩

/-- A run that is polled after an interval invokes some transformers and continues. -/
theorem Run.Continues.of_poll {run : Run} {m : Interval} (after : m.After run.store w)
    (continues : Poll.Continues (run.poll m.world) ms invoked result w') :
    ∃ new, m.world.Invokes (keys new) (run.poll m.world).2 ∧
      run.Continues w (m :: ms) (new ++ invoked) result w' := by
  obtain ⟨store, rest, stage⟩ := run
  cases stage with
  | «at» d =>
      obtain ⟨new, writes, called, folds⟩ := folds_of_advance continues
      exact ⟨new, called, .begun after folds⟩
  | task task =>
      obtain ⟨new, _, settled, u, _, _, called, carried, onward⟩ :=
        onward_of_task folds_of_advance continues
      exact ⟨new, called, .within after carried onward⟩
  | waiting cell =>
      cases houtcome : m.world.outcome? cell with
      | none =>
          simp only [Run.poll, houtcome] at continues ⊢
          cases continues with
          | pending continues =>
              cases continues with
              | asleep awaited onward =>
                  exact ⟨[], .refl _, .asleep (.vain after houtcome awaited) onward⟩
      | some settled =>
          cases settled with
          | ok d =>
              simp only [Run.poll, houtcome] at continues ⊢
              obtain ⟨new, writes, called, folds⟩ := folds_of_advance continues
              exact ⟨new, called, .asleep (.woken after houtcome) (.ok folds)⟩
          | error e =>
              simp only [Run.poll, houtcome] at continues ⊢
              cases continues
              exact ⟨[], .refl _, .asleep (.woken after houtcome) (.error e _)⟩

/-! ## Under every schedule -/

theorem World.Invokes.since {invocations : List (Nat × String)} (h : w.Invokes invocations v) :
    (w.since v).invoked = invocations := by
  obtain ⟨events, journal, rfl⟩ := h
  rw [World.since, journal, List.drop_left]

theorem Run.store_of_pending {run next : Run} (polled : run.poll w = (.pending next, v)) :
    next.store = run.store := by
  rcases (Run.moved_poll (w := w) run).2 next (by rw [polled]) with rfl | begun
  · rfl
  · exact begun.1

theorem Ends.continues {run : Run} {events : Journal}
    (h : Ends Run.poll store run w ms events result w') (works : run.store = store) :
    ∃ invoked, events.invoked = keys invoked ∧ run.Continues w ms invoked result w' := by
  induction h with
  | @last run w m result w' after polled =>
      subst works
      obtain ⟨new, called, continues⟩ :=
        Run.Continues.of_poll after (polled ▸ Poll.Continues.finished result w')
      rw [polled] at called
      exact ⟨new ++ [], by rw [called.since, List.append_nil], continues⟩
  | @again run w m next v ms events result w' after polled later ih =>
      subst works
      obtain ⟨invoked, told, continues⟩ := ih (Run.store_of_pending polled)
      obtain ⟨new, called, continues⟩ :=
        Run.Continues.of_poll after (polled ▸ Poll.Continues.pending continues)
      rw [polled] at called
      refine ⟨new ++ invoked, ?_, continues⟩
      have earlier := called.since
      simp only [Journal.invoked, keys] at told earlier
      simp only [Journal.invoked, keys, List.filterMap_append, List.map_append, told, earlier]

/--
Whatever the schedule, a run that comes to its end has folded over its
transformers, from the world that it was polled in first.  No other fold goes
over the same intervals.  The run has invoked the first few transformers, each
once and in their order; all of them if it succeeds, and up to the one to blame
if it fails.  Everything written to the namespace since the beginning stands.
-/
theorem run_folds_left_to_right (transformers : List Bound) (valid : w.heap.Valid store)
    {events : Journal}
    (ended : Ends Run.poll store ⟨store, transformers, .at d⟩ w ms events result w') :
    ∃ m later invoked writes,
      ms = m :: later ∧ m.After store w ∧
      Folds store transformers d m.world later invoked writes result w' ∧
      (∀ invoked' writes' result' v,
        Folds store transformers d m.world later invoked' writes' result' v →
        invoked' = invoked ∧ writes' = writes ∧ result' = result ∧ v = w') ∧
      events.invoked = keys invoked ∧
      invoked.map Prod.fst <+: transformers ∧
      w'.data store = (w.data store).replay (m.writes ++ writes) ∧
      (∀ last, result = .ok last → invoked.map Prod.fst = transformers) ∧
      ∀ e, result = .error e →
        ∃ earlier b given, invoked = earlier ++ [(b, given)] ∧ b.Failure e := by
  obtain ⟨invoked, told, continues⟩ := ended.continues rfl
  cases continues with
  | @begun _ _ _ _ m later _ writes _ _ after folds =>
      have written := after.written.trans folds.written
      refine ⟨m, later, invoked, writes, rfl, after, folds, ?_, told, folds.invoked_prefix,
        written.data valid, ?_, ?_⟩
      · intro invoked' writes' result' v folds'
        exact folds'.unique folds
      · rintro last rfl
        exact folds.all_invoked
      · rintro e rfl
        exact folds.last_failed

/-! ## A run that waits for a job and then fails -/

namespace Delayed

def late (d : Document) : Document := { d with tree := .text "late" }

def body (d : Document) : Program Completing Unit := do
  let _ ← Work.completing (Work.insert "late" .null)
  let _ ← Completing.complete (.ok (late d))
  return ()

def delaying : Bound where
  index := 0
  plugin := "delaying"
  transformer := .callback fun d => do
    Calling.defer (body d)
    return .ok ()

def failing : Bound where
  index := 3
  plugin := "failing"
  transformer := .sync fun _ => do
    let _ ← Work.insert "partly" .null
    return .error (.reason "no")

def run : Run := ⟨⟨0⟩, [delaying, failing, delaying], .at default⟩

def world : World := { heap := ⟨[{}]⟩ }

def begun : World := (run.poll world).2

def fired : World := (begun.dequeue 0).runJob ⟨0, ⟨0⟩, body default⟩

/-- The job fires before the third poll. -/
def intervals : List Interval :=
  [⟨[], [], world⟩, ⟨[], [], begun⟩,
    ⟨[.insert "late" .null], [(0, .ok (late default))], fired⟩]

end Delayed

/--
The second transformer is given what the job completed with, and the third is
never invoked.
-/
theorem delayed_run_folds :
    ∃ events w' invoked, Ends Run.poll ⟨0⟩ Delayed.run Delayed.world Delayed.intervals events
        (.error (.transform 3 "failing" (.reason "no"))) w' ∧
      events.invoked = keys invoked ∧
      invoked = [(Delayed.delaying, default), (Delayed.failing, Delayed.late default)] ∧
      w'.data ⟨0⟩ = (({} : Namespace).insert "late" .null).insert "partly" .null := by
  have fires : World.GoesOn ⟨0⟩ Delayed.begun [.insert "late" .null]
      [(0, .ok (Delayed.late default))] Delayed.fired := by
    have found : Delayed.begun.jobs[0]? = some ⟨0, ⟨0⟩, Delayed.body default⟩ := rfl
    exact .fire found (.refl _)
  have ended : ∃ events w', Ends Run.poll ⟨0⟩ Delayed.run Delayed.world Delayed.intervals events
      (.error (.transform 3 "failing" (.reason "no"))) w' ∧
      w'.data ⟨0⟩ = (({} : Namespace).insert "late" .null).insert "partly" .null :=
    ⟨_, _, .again (.refl _) rfl (.again (.refl _) rfl (.last fires rfl)), rfl⟩
  obtain ⟨events, w', ended, left⟩ := ended
  have valid : Delayed.world.heap.Valid ⟨0⟩ := Nat.one_pos
  obtain ⟨m, later, invoked, writes, same, -, -, unique, told, -⟩ :=
    run_folds_left_to_right Delayed.run.rest valid ended
  obtain ⟨rfl, rfl⟩ := List.cons.inj same
  have folds : ∃ writes w', Folds ⟨0⟩ Delayed.run.rest default Delayed.world
      Delayed.intervals.tail
      [(Delayed.delaying, default), (Delayed.failing, Delayed.late default)] writes
      (.error (.transform 3 "failing" (.reason "no"))) w' :=
    ⟨_, _, .next (.later rfl (.vain (.refl _) rfl (.woken fires rfl)))
      (.failed (.sync rfl (.fail _)))⟩
  obtain ⟨writes', v, folds⟩ := folds
  exact ⟨events, w', invoked, ended, told, (unique _ _ _ _ folds).1.symm, left⟩

end DocPipeline
