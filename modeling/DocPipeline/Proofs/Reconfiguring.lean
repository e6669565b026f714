import DocPipeline.Proofs.System

/-!
# Configuring a frozen processor

A frozen processor that is configured again does all that a copy of it would do,
but it does so on the namespace that it had.  What is seen through a handle taken
before, and by a run started before, changes along with it.
-/

namespace DocPipeline

/-! ## Requests -/

namespace Processor

inductive Request where
  | use (what : Pluggable)
  | useWith (plugin : Plugin) (options : List Value)
  | withParser (parser : Parser)
  | withCompiler (compiler : Compiler)
  | setData (key : String) (v : Value)
  | freeze (book : Book)

def Request.configures : Request → Bool
  | .setData .. | .freeze _ => false
  | _ => true

/-- An error, or the sealed pipeline when it was asked for. -/
abbrev Answer := Except ProcessorError (Option Pipeline)

/-- What has come of requests; on a fault the processor itself is lost. -/
structure Progress where
  answers : List Answer
  processor : Option Processor
  world : World

def configured : Except ProcessorError Processor × World → Progress
  | (.ok p, w) => ⟨[.ok none], some p, w⟩
  | (.error e, w) => ⟨[.error e], none, w⟩

def asked : Except ProcessorError Pipeline × Processor × World → Progress
  | (result, p, w) => ⟨[result.map some], some p, w⟩

def perform (p : Processor) (w : World) : Request → Progress
  | .use what => configured (p.use what w)
  | .useWith plugin options => configured (p.useWith plugin options w)
  | .withParser parser => ⟨[.ok none], some (p.withParser parser), w⟩
  | .withCompiler compiler => ⟨[.ok none], some (p.withCompiler compiler), w⟩
  | .setData key v => ⟨[.ok none], some p, p.setData key v w⟩
  | .freeze book => asked (p.freeze book w)

def performAll (p : Processor) (w : World) : List Request → Progress
  | [] => ⟨[], some p, w⟩
  | request :: more =>
      match p.perform w request with
      | ⟨answers, none, w⟩ => ⟨answers, none, w⟩
      | ⟨answers, some p, w⟩ =>
          let rest := p.performAll w more
          { rest with answers := answers ++ rest.answers }

end Processor

/-! ## In step with a copy -/

/-- The worlds agree on a namespace, though it has another handle in each. -/
structure World.Agree (g h : Namespace.Handle) (w v : World) : Prop where
  valid : w.heap.Valid g ∧ v.heap.Valid h
  data : w.data g = v.data h
  journal : w.journal = v.journal
  sealings : w.sealings = v.sealings

/-- The same progress, on two handles. -/
structure Processor.Progress.Twin (g h : Namespace.Handle) (s t : Processor.Progress) :
    Prop where
  answers : s.answers = t.answers
  processor : ∃ state : Option Processor.State,
    s.processor = state.map (⟨·, g⟩) ∧ t.processor = state.map (⟨·, h⟩)
  world : World.Agree g h s.world t.world

variable {g h : Namespace.Handle} {w v : World}

theorem World.Agree.writeData (agree : World.Agree g h w v) (ns : Namespace) :
    World.Agree g h (w.writeData g ns) (v.writeData h ns) where
  valid := by
    simpa [Namespace.Heap.Valid, World.writeData, Namespace.Heap.write] using agree.valid
  data := by
    simp [World.data, World.writeData, Namespace.Heap.read_write agree.valid.1,
      Namespace.Heap.read_write agree.valid.2]
  journal := agree.journal
  sealings := agree.sealings

theorem World.Agree.afterSetup (agree : World.Agree g h w v) (s : Setup) :
    World.Agree g h (w.afterSetup g s) (v.afterSetup h s) :=
  { agree.writeData s.data with journal := rfl }

namespace Processor

variable {p q : Processor}

theorem twin_use (same : p.configuration = q.configuration)
    (agree : World.Agree p.store q.store w v) (what : Pluggable) :
    Progress.Twin p.store q.store (configured (p.use what w)) (configured (q.use what v)) := by
  unfold use
  rw [same, agree.data, agree.journal]
  cases Setup.use what ⟨q.configuration, v.data q.store, v.journal⟩ with
  | mk result s =>
      have agree := agree.afterSetup s
      cases result with
      | error e => exact ⟨rfl, ⟨none, rfl, rfl⟩, agree⟩
      | ok done => exact ⟨rfl, ⟨some (.configuring s.config), rfl, rfl⟩, agree⟩

theorem twin_freeze (same : p.state = q.state) (agree : World.Agree p.store q.store w v)
    (book : Book) :
    Progress.Twin p.store q.store (asked (p.freeze book w)) (asked (q.freeze book v)) := by
  cases state : q.state with
  | frozen pipeline =>
      rw [freeze_frozen book w (same.trans state), freeze_frozen book v state]
      exact ⟨rfl, ⟨some q.state, by rw [← same]; rfl, rfl⟩, agree⟩
  | configuring c =>
      cases attached : Setup.attachPending book ⟨c, v.data q.store, v.journal⟩ with
      | mk result s =>
          have here := attached
          rw [← agree.data, ← agree.journal] at here
          cases result with
          | error e =>
              rw [freeze_failed (same.trans state) here, freeze_failed state attached]
              exact ⟨rfl, ⟨some (.configuring s.config), rfl, rfl⟩, agree.afterSetup s⟩
          | ok done =>
              rw [freeze_sealed (same.trans state) here, freeze_sealed state attached,
                agree.sealings]
              exact ⟨rfl, ⟨some (.frozen (s.config.seal v.sealings)), rfl, rfl⟩,
                { agree.afterSetup s with sealings := rfl }⟩

theorem twin_perform (same : p.configuration = q.configuration) (request : Request)
    (stands : request.configures = true ∨ p.state = q.state)
    (agree : World.Agree p.store q.store w v) :
    Progress.Twin p.store q.store (p.perform w request) (q.perform v request) := by
  cases request with
  | use what => exact twin_use same agree what
  | useWith plugin options => exact twin_use same agree (.entry plugin options)
  | withParser parser =>
      refine ⟨rfl, ⟨some (p.withParser parser).state, rfl, ?_⟩, agree⟩
      rw [withParser, same]
      rfl
  | withCompiler compiler =>
      refine ⟨rfl, ⟨some (p.withCompiler compiler).state, rfl, ?_⟩, agree⟩
      rw [withCompiler, same]
      rfl
  | setData key x =>
      have same : p.state = q.state := by simpa [Request.configures] using stands
      refine ⟨rfl, ⟨some q.state, by rw [← same]; rfl, rfl⟩, ?_⟩
      change World.Agree _ _ (p.setData key x w) (q.setData key x v)
      rw [setData, setData, data, data, agree.data]
      exact agree.writeData _
  | freeze book =>
      have same : p.state = q.state := by simpa [Request.configures] using stands
      exact twin_freeze same agree book

theorem Progress.Twin.onward {request : Request} {more : List Request}
    (step : Progress.Twin g h (p.perform w request) (q.perform v request))
    (rest : ∀ state w v, World.Agree g h w v →
      Progress.Twin g h (performAll ⟨state, g⟩ w more) (performAll ⟨state, h⟩ v more)) :
    Progress.Twin g h (p.performAll w (request :: more))
      (q.performAll v (request :: more)) := by
  unfold performAll
  obtain ⟨answers, ⟨state, here, there⟩, agree⟩ := step
  cases left : p.perform w request with
  | mk answers₁ processor₁ w₁ =>
      cases right : q.perform v request with
      | mk answers₂ processor₂ w₂ =>
          simp only [left, right] at answers here there agree
          subst answers here there
          cases state with
          | none => exact ⟨rfl, ⟨none, rfl, rfl⟩, agree⟩
          | some state =>
              have twin := rest state w₁ w₂ agree
              exact ⟨congrArg (answers₁ ++ ·) twin.answers, twin.processor, twin.world⟩

theorem twin_performAll (requests : List Request) :
    ∀ state w v, World.Agree g h w v →
      Progress.Twin g h (performAll ⟨state, g⟩ w requests)
        (performAll ⟨state, h⟩ v requests) := by
  induction requests with
  | nil => exact fun state w v agree => ⟨rfl, ⟨some state, rfl, rfl⟩, agree⟩
  | cons request more ih =>
      intro state w v agree
      have step := twin_perform (p := ⟨state, g⟩) (q := ⟨state, h⟩) rfl request (.inr rfl) agree
      exact step.onward ih

/-! ## What stays as it was -/

theorem confined_perform (p : Processor) (w : World) (request : Request) :
    World.Confined p.store [] w (p.perform w request).world := by
  have used (what : Pluggable) :
      World.Confined p.store [] w (configured (p.use what w)).world := by
    cases run : p.use what w with
    | mk result w' => cases result <;> exact confined_use run
  cases request with
  | use what => exact used what
  | useWith plugin options => exact used (.entry plugin options)
  | withParser parser => exact .refl
  | withCompiler compiler => exact .refl
  | setData key v => exact World.confined_writeData _
  | freeze book => exact confined_freeze book

theorem store_perform {request : Request}
    (going : (p.perform w request).processor = some q) : q.store = p.store := by
  have used (what : Pluggable) (going : (configured (p.use what w)).processor = some q) :
      q.store = p.store := by
    cases run : p.use what w with
    | mk result w' =>
        rw [run] at going
        cases result with
        | error e => simp [configured] at going
        | ok p' =>
            cases going
            exact store_use run
  cases request with
  | use what => exact used what going
  | useWith plugin options => exact used (.entry plugin options) going
  | withParser parser =>
      cases going
      rfl
  | withCompiler compiler =>
      cases going
      rfl
  | setData key v =>
      cases going
      rfl
  | freeze book =>
      cases going
      exact store_freeze book

theorem confined_performAll (requests : List Request) (p : Processor) (w : World) :
    World.Confined p.store [] w (p.performAll w requests).world := by
  induction requests generalizing p w with
  | nil => exact .refl
  | cons request more ih =>
      have step := p.confined_perform w request
      unfold performAll
      split
      · next performed => exact performed ▸ step
      · next answers q v performed =>
        have same : q.store = p.store := store_perform (by rw [performed])
        rw [performed] at step
        have rest := ih q v
        rw [same] at rest
        exact step.trans_same rest

theorem agree_copy (valid : w.heap.Valid p.store) :
    World.Agree p.store (p.copy w).1.store w (p.copy w).2 where
  valid := by
    obtain ⟨-, fresh⟩ := System.fresh_allocate w (w.data p.store)
    exact ⟨valid, fresh⟩
  data := (Namespace.Heap.read_alloc_self w.heap (w.data p.store)).symm
  journal := rfl
  sealings := rfl

end Processor

/--
A frozen processor is configured again, and possibly frozen, and so on.  It
gives the answers that its copy would give and comes to the same state with the
same contents.  The copy begins with the attachers and slots that were sealed and
with the same contents in a store of its own, and it would leave all that was
there as it was.  The processor itself works on the store of every run made of it
before; so the contents seen earlier stand exactly if the requests end with those
contents.
-/
theorem reconfigured_in_place {p : Processor} {pipeline : Pipeline}
    (frozen : p.state = .frozen pipeline) (valid : w.heap.Valid p.store)
    {first : Processor.Request} (configures : first.configures = true)
    (more : List Processor.Request) :
    let copy := p.copy w
    let here := p.performAll w (first :: more)
    let there := copy.1.performAll copy.2 (first :: more)
    (here.answers = there.answers ∧
      (∃ state : Option Processor.State, here.processor = state.map (⟨·, p.store⟩) ∧
        there.processor = state.map (⟨·, copy.1.store⟩)) ∧
      here.world.data p.store = there.world.data copy.1.store ∧
      here.world.journal = there.world.journal) ∧
    (copy.1.state = .configuring {
        registry := pipeline.registry, parser := pipeline.parser, compiler := pipeline.compiler,
        transformers := [], cursor := 0 } ∧
      copy.2.data copy.1.store = w.data p.store) ∧
    (¬ w.heap.Valid copy.1.store ∧
      ∀ h, w.heap.Valid h → there.world.data h = w.data h) ∧
    (∀ book d, (p.run book d w).1.store? = some p.store) ∧
    ((∀ h, w.heap.Valid h → here.world.data h = w.data h) ↔
      there.world.data copy.1.store = w.data p.store) := by
  intro copy here there
  have fresh : ¬ w.heap.Valid copy.1.store := (System.fresh_allocate w (w.data p.store)).1
  -- only the first request finds different states, a frozen and an open one
  have same : p.configuration = copy.1.configuration := by
    simp only [copy, Processor.copy, Processor.configuration, Processor.reopened, frozen]
  have twin : Processor.Progress.Twin p.store copy.1.store here there :=
    (Processor.twin_perform same first (.inl configures) (Processor.agree_copy valid)).onward
      (Processor.twin_performAll more)
  have forked : World.Confined copy.1.store [] w copy.2 := World.confined_allocate _
  have beside := forked.trans_same
    (Processor.confined_performAll (first :: more) copy.1 copy.2)
  have inside := Processor.confined_performAll (first :: more) p w
  refine ⟨⟨twin.answers, twin.processor, twin.world.data, twin.world.journal⟩,
    ⟨?_, (Processor.agree_copy valid).data.symm⟩, ⟨fresh, ?_⟩, ?_, ?_, ?_⟩
  · simp only [copy, Processor.copy, Processor.reopened, frozen]
    rfl
  · intro h earlier
    refine beside.data h earlier ?_
    rintro rfl
    exact fresh earlier
  · intro book d
    rw [Processor.run, Processor.freeze_frozen book w frozen]
    rfl
  · intro kept
    rw [← twin.world.data]
    exact kept p.store valid
  · intro ended h earlier
    by_cases own : h = p.store
    · rw [own, twin.world.data]
      exact ended
    · exact inside.data h earlier own

/-! ## Settings merged in after freezing -/

namespace Late

/-- It will have no settings. -/
def plain : Bound where
  index := 0
  plugin := "plain"
  transformer := .sync fun d => do
    let ns ← Work.data
    if ns.settings?.isSome then return .error (.reason "settings")
    else return .ok { document := d }

def pipeline : Pipeline where
  serial := 0
  registry := Registry.register {} ⟨⟨⟨"own", "plain"⟩, "plain"⟩, [], true⟩
  parser := none
  compiler := none
  transformers := [plain]

def processor : Processor := ⟨.frozen pipeline, ⟨0⟩⟩

def world : World := { heap := ⟨[{}]⟩, sealings := 1 }

def merging : List Processor.Request := [.use (.preset [] (some (.object .nil)))]

/-- Neither has anything to do with the namespace. -/
def parsing : Processor.Request := .withParser { parse := fun _ _ => .ok .root }

def disabling : Processor.Request := .useWith ⟨⟨"own", "plain"⟩, "plain"⟩ [.bool false]

/-- Started before any of the requests. -/
def call : Call := (processor.run {} default world).1

end Late

theorem disabling_keeps_contents :
    Late.parsing.configures = true ∧ Late.world.heap.Valid Late.processor.store ∧
      ∀ h, Late.world.heap.Valid h →
        (Late.processor.performAll Late.world [Late.parsing, Late.disabling]).world.data h =
          Late.world.data h := by
  have valid : Late.world.heap.Valid Late.processor.store := Nat.one_pos
  have configures : Late.parsing.configures = true := rfl
  have condition :=
    (reconfigured_in_place (p := Late.processor) rfl valid configures [Late.disabling]).2.2.2.2
  exact ⟨configures, valid, condition.2 rfl⟩

/-- The settings are seen through the store of before, and they break the earlier run. -/
theorem late_settings_seen_earlier :
    let here := Late.processor.performAll Late.world Late.merging
    let there := (Late.processor.copy Late.world).1.performAll
      (Late.processor.copy Late.world).2 Late.merging
    here.world.data Late.processor.store ≠ Late.world.data Late.processor.store ∧
    there.world.data Late.processor.store = Late.world.data Late.processor.store ∧
    (Late.call.poll Late.world).1 = .finished (.ok (.document default)) ∧
    (Late.call.poll there.world).1 = .finished (.ok (.document default)) ∧
    (Late.call.poll here.world).1 =
      .finished (.error (.transform 0 "plain" (.reason "settings"))) := by
  intro here there
  refine ⟨?_, rfl, rfl, rfl, rfl⟩
  intro same
  have noticed := congrArg (fun ns => ns.settings?.isSome) same
  exact Bool.noConfusion noticed

end DocPipeline
