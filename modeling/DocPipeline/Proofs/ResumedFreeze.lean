import DocPipeline.Proofs.Turns
import DocPipeline.Processor

/-!
# Freezing again after a failure

A freeze that fails leaves the processor behind the attacher that failed, and the
next one goes on from there.  However many attachers fail, freezing until it
succeeds comes to the same as a single pass over all of them that puts up with
failures.
-/

namespace DocPipeline

/-! ## A single pass -/

/-- The visit to an attacher; it returns nothing if it is disabled. -/
structure Visit where
  index : Nat
  attacher : Attacher
  returned : Option (Except Cause (Option Transformer))

namespace Visit

def plugin (v : Visit) : Plugin := v.attacher.plugin

def failure? (v : Visit) : Option ProcessorError :=
  match v.returned with
  | some (.error source) => some (.attach v.index v.plugin.name source)
  | _ => none

def contribution? (v : Visit) : Option Bound :=
  match v.returned with
  | some (.ok (some t)) => some ⟨v.index, v.plugin.name, t⟩
  | _ => none

def failures (visits : List Visit) : List ProcessorError := visits.filterMap failure?

def contributions (visits : List Visit) : List Bound := visits.filterMap contribution?

theorem failures_cons (v : Visit) (visits : List Visit) :
    failures (v :: visits) = v.failure?.toList ++ failures visits := by
  cases h : v.failure? <;> simp [failures, h]

theorem contributions_cons (v : Visit) (visits : List Visit) :
    contributions (v :: visits) = v.contribution?.toList ++ contributions visits := by
  cases h : v.contribution? <;> simp [contributions, h]

end Visit

namespace Setup

/-- If the attacher fails, it contributes nothing, and what it has done stays. -/
def visit (book : Book) (s : Setup) (a : Attacher) : Visit × Setup :=
  if a.enabled then
    let (returned, t) := s.attach book a
    let v : Visit := ⟨s.config.cursor, a, some returned⟩
    (v, v.contribution?.elim t t.contribute)
  else (⟨s.config.cursor, a, none⟩, { s with config := s.config.advance })

theorem attachOne_visit (book : Book) (s : Setup) (a : Attacher) :
    s.attachOne book a =
      ((s.visit book a).1.failure?.elim (.ok ()) .error, (s.visit book a).2) := by
  unfold visit
  cases on : a.enabled with
  | false => simp [attachOne, on, Visit.failure?]
  | true =>
      rw [attachOne_of_enabled on, if_pos rfl]
      rcases s.attach book a with ⟨source | (none | transformer), t⟩ <;> rfl

/-- A single pass over all attachers from the cursor on. -/
def pass (book : Book) (s : Setup) : List Visit × Setup :=
  match _hnext : s.config.next? with
  | none => ([], s)
  | some a =>
      let rest := pass book (s.visit book a).2
      ((s.visit book a).1 :: rest.1, rest.2)
termination_by ((s.config.unattached book).length, s.config.remaining)
decreasing_by
  have decreases := @attachOne_decreases book _ _ _hnext
  rw [attachOne_visit] at decreases
  exact decreases

variable {book : Book} {s t : Setup} {a : Attacher} {e : ProcessorError}

theorem pass_of_none (hnext : s.config.next? = none) : s.pass book = ([], s) := by
  rw [pass]
  split
  · rfl
  · next heq => simp [hnext] at heq

theorem pass_of_some (hnext : s.config.next? = some a) :
    s.pass book = ((s.visit book a).1 :: ((s.visit book a).2.pass book).1,
      ((s.visit book a).2.pass book).2) := by
  rw [pass]
  split
  · next heq => simp [hnext] at heq
  · next b heq =>
    obtain rfl : a = b := by simpa [hnext] using heq
    rfl

/-! ## What the pass goes through -/

theorem visit_turned (book : Book) (s : Setup) (a : Attacher) :
    s.Turned (s.turn book a) (s.visit book a).2 := by
  have turned := s.attachOne_turned book a
  rwa [attachOne_visit] at turned

theorem visit_place (book : Book) (s : Setup) (a : Attacher) :
    (s.visit book a).1.index = s.config.cursor ∧ (s.visit book a).1.attacher = a := by
  unfold visit
  split <;> exact ⟨rfl, rfl⟩

theorem visit_contribution (book : Book) (s : Setup) (a : Attacher) :
    (s.turn book a).contribution? s.config.cursor = (s.visit book a).1.contribution? := by
  unfold visit
  cases on : a.enabled with
  | false => simp [Turn.contribution?, turn, on, Visit.contribution?]
  | true =>
      rcases run : s.attach book a with ⟨source | (none | transformer), t⟩ <;>
        simp [Turn.contribution?, turn, on, run, Visit.contribution?, Turn.plugin, Visit.plugin]

theorem plugins_pass (book : Book) (s : Setup) :
    s.config.registry.plugins <+: (s.pass book).2.config.registry.plugins := by
  fun_induction pass book s with
  | case1 s hnext => exact List.prefix_rfl
  | case2 s a hnext rest ih => exact (s.visit_turned book a).plugins.trans ih

theorem indices_pass (book : Book) (s : Setup) :
    (s.pass book).1.map Visit.index =
      List.range' s.config.cursor (s.pass book).1.length := by
  fun_induction pass book s with
  | case1 s hnext => rfl
  | case2 s a hnext rest ih =>
      rw [(s.visit_turned book a).cursor] at ih
      rw [List.map_cons, List.length_cons, List.range'_succ, (s.visit_place book a).1, ih]

theorem visited_pass (book : Book) (s : Setup) :
    (s.pass book).1.map Visit.plugin =
      (s.pass book).2.config.registry.plugins.drop s.config.cursor := by
  fun_induction pass book s with
  | case1 s hnext =>
      have all : s.config.registry.attachers.length ≤ s.config.cursor :=
        List.getElem?_eq_none_iff.1 hnext
      rw [List.map_nil, List.drop_eq_nil_of_le]
      rwa [Registry.length_plugins]
  | case2 s a hnext rest ih =>
      have here : s.config.registry.plugins[s.config.cursor]? = some a.plugin := by
        simp only [Registry.plugins, List.getElem?_map]
        exact congrArg (Option.map Attacher.plugin) hnext
      have kept : rest.2.config.registry.plugins[s.config.cursor]? = some a.plugin := by
        obtain ⟨inside, -⟩ := List.getElem?_eq_some_iff.1 here
        obtain ⟨more, grown⟩ := (s.visit_turned book a).plugins.trans (plugins_pass book _)
        rw [← grown, List.getElem?_append_left inside]
        exact here
      obtain ⟨inside, same⟩ := List.getElem?_eq_some_iff.1 kept
      rw [(s.visit_turned book a).cursor] at ih
      rw [List.map_cons, List.drop_eq_getElem_cons inside, same, ih, Visit.plugin,
        (s.visit_place book a).2]

theorem transformers_pass (book : Book) (s : Setup) :
    (s.pass book).2.config.transformers =
      s.config.transformers ++ Visit.contributions (s.pass book).1 := by
  fun_induction pass book s with
  | case1 s hnext => exact (List.append_nil _).symm
  | case2 s a hnext rest ih =>
      rw [ih, (s.visit_turned book a).transformers, visit_contribution,
        Visit.contributions_cons, List.append_assoc]

/-! ## Going on behind a failure -/

theorem visit_of_ok (hone : s.attachOne book a = (.ok (), t)) :
    (s.visit book a).1.failure? = none ∧ (s.visit book a).2 = t := by
  rw [attachOne_visit, Prod.mk.injEq] at hone
  obtain ⟨result, rfl⟩ := hone
  cases failure : (s.visit book a).1.failure? with
  | none => exact ⟨rfl, rfl⟩
  | some e => simp [failure] at result

theorem visit_of_error (hone : s.attachOne book a = (.error e, t)) :
    (s.visit book a).1.failure? = some e ∧ (s.visit book a).2 = t := by
  rw [attachOne_visit, Prod.mk.injEq] at hone
  obtain ⟨result, rfl⟩ := hone
  cases failure : (s.visit book a).1.failure? with
  | none => simp [failure] at result
  | some e' =>
      obtain rfl : e' = e := by simpa [failure] using result
      exact ⟨rfl, rfl⟩

theorem pass_of_sealed (h : s.attachPending book = (.ok (), t)) :
    Visit.failures (s.pass book).1 = [] ∧ (s.pass book).2 = t := by
  fun_induction attachPending book s with
  | case1 s hnext =>
      cases h
      rw [pass_of_none hnext]
      exact ⟨rfl, rfl⟩
  | case2 s a hnext u hone ih =>
      obtain ⟨silent, rfl⟩ := visit_of_ok hone
      rw [pass_of_some hnext, Visit.failures_cons, silent]
      exact ih h
  | case3 s a hnext e u hone => cases h

theorem pass_of_failed (h : s.attachPending book = (.error e, t)) :
    Visit.failures (s.pass book).1 = e :: Visit.failures (t.pass book).1 ∧
      (s.pass book).2 = (t.pass book).2 := by
  fun_induction attachPending book s with
  | case1 s hnext => cases h
  | case2 s a hnext u hone ih =>
      obtain ⟨silent, rfl⟩ := visit_of_ok hone
      rw [pass_of_some hnext, Visit.failures_cons, silent]
      exact ih h
  | case3 s a hnext e' u hone =>
      cases h
      obtain ⟨failed, rfl⟩ := visit_of_error hone
      rw [pass_of_some hnext, Visit.failures_cons, failed]
      exact ⟨rfl, rfl⟩

theorem attachPending_of_silent (book : Book) (s : Setup) (h : Visit.failures (s.pass book).1 = []) :
    s.attachPending book = (.ok (), (s.pass book).2) := by
  cases attached : s.attachPending book with
  | mk result t =>
      cases result with
      | ok done => rw [(pass_of_sealed attached).2]
      | error e =>
          rw [(pass_of_failed attached).1] at h
          cases h

theorem attachPending_of_failure (book : Book) (s : Setup) {more : List ProcessorError}
    (h : Visit.failures (s.pass book).1 = e :: more) :
    ∃ t, s.attachPending book = (.error e, t) ∧
      Visit.failures (t.pass book).1 = more ∧ (t.pass book).2 = (s.pass book).2 := by
  cases attached : s.attachPending book with
  | mk result t =>
      cases result with
      | ok done =>
          rw [(pass_of_sealed attached).1] at h
          cases h
      | error e' =>
          obtain ⟨failures, same⟩ := pass_of_failed attached
          rw [h, List.cons.injEq] at failures
          obtain ⟨rfl, left⟩ := failures
          exact ⟨t, rfl, left.symm, same.symm⟩

end Setup

/-! ## Freezing again and again -/

/--
A processor is frozen again and again until that succeeds: the errors met on the
way, the pipeline, and what there is then.
-/
inductive Processor.Freezes (book : Book) :
    Processor × World → List ProcessorError → Pipeline → Processor × World → Prop
  | sealed {p w pipeline ended} (freeze : p.freeze book w = (.ok pipeline, ended)) :
      Freezes book (p, w) [] pipeline ended
  | failed {p w e next errors pipeline ended} (freeze : p.freeze book w = (.error e, next))
      (unfrozen : next.1.isFrozen = false)
      (rest : Freezes book next errors pipeline ended) :
      Freezes book (p, w) (e :: errors) pipeline ended

namespace Processor

variable {book : Book} {p : Processor} {w : World} {c : Configuration}

theorem freezes_pass {visits : List Visit} {s : Setup} (state : p.state = .configuring c)
    (valid : w.heap.Valid p.store)
    (passed : Setup.pass book ⟨c, w.data p.store, w.journal⟩ = (visits, s)) :
    Freezes book (p, w) (Visit.failures visits) (s.config.seal w.sealings)
      (⟨.frozen (s.config.seal w.sealings), p.store⟩,
        { w.afterSetup p.store s with sealings := w.sealings + 1 }) := by
  -- every failed freeze takes one of the failures off the pass that is left
  generalize failed : Visit.failures visits = errors
  induction errors generalizing p w c visits with
  | nil =>
      have attached := Setup.attachPending_of_silent book
        ⟨c, w.data p.store, w.journal⟩ (by rw [passed, failed])
      rw [passed] at attached
      exact .sealed (freeze_sealed state attached)
  | cons e more ih =>
      obtain ⟨t, attached, left, same⟩ := Setup.attachPending_of_failure book
        ⟨c, w.data p.store, w.journal⟩ (by rw [passed, failed])
      have again : Setup.pass book
          ⟨t.config, (w.afterSetup p.store t).data p.store, t.journal⟩ =
            ((t.pass book).1, s) := by
        rw [World.data_afterSetup valid]
        rw [passed] at same
        exact Prod.ext rfl same
      have freezes := ih (p := ⟨.configuring t.config, p.store⟩)
        (w := w.afterSetup p.store t) rfl (World.valid_afterSetup valid) again left
      rw [World.afterSetup_afterSetup] at freezes
      exact .failed (freeze_failed state attached) rfl freezes

end Processor

/--
Freezing until it succeeds seals what a single pass leaves, and the calls on the
way report the attachers that fail in it.  The pass visits each plugin from the
cursor on, in order, those registered meanwhile included.  Freezing once more
changes nothing.
-/
theorem freezing_resumes (book : Book) {p : Processor} {w : World} {c : Configuration}
    (state : p.state = .configuring c) (valid : w.heap.Valid p.store) :
    let visited := Setup.pass book ⟨c, w.data p.store, w.journal⟩
    let pipeline := visited.2.config.seal w.sealings
    let q : Processor := ⟨.frozen pipeline, p.store⟩
    let v : World := { w.afterSetup p.store visited.2 with sealings := w.sealings + 1 }
    Processor.Freezes book (p, w) (Visit.failures visited.1) pipeline (q, v) ∧
      v.data p.store = visited.2.data ∧
      (∀ u, q.freeze book u = (.ok pipeline, q, u)) ∧
      visited.1.map Visit.index = List.range' c.cursor visited.1.length ∧
      visited.1.map Visit.plugin = pipeline.registry.plugins.drop c.cursor ∧
      pipeline.transformers = c.transformers ++ Visit.contributions visited.1 := by
  intro visited pipeline q v
  refine ⟨Processor.freezes_pass state valid rfl, World.data_afterSetup valid, ?_,
    Setup.indices_pass book _, Setup.visited_pass book _, Setup.transformers_pass book _⟩
  intro u
  exact Processor.freeze_frozen book u rfl

/-! ## Two attachers that fail -/

namespace Stumbling

def named (label : String) : Plugin := ⟨⟨"own", label⟩, label⟩

/-- The first brings in the third, and both fail. -/
def book : Book where
  entries := [
    ((named "first").identity, fun _ _ _ => do
      Attach.setData "mark" .null
      let _ ← Attach.use (.ofPlugin (named "third"))
      return .error (.reason "no")),
    ((named "second").identity, .transformer (.sync fun d => .done (.ok { document := d }))),
    ((named "third").identity, fun _ _ _ => do
      Attach.setParser { parse := fun _ _ => .ok .root }
      return .error (.reason "never"))]

def config : Configuration where
  registry := (Registry.register {} ⟨named "first", [], true⟩).register
    ⟨named "second", [], true⟩

def processor : Processor := ⟨.configuring config, ⟨0⟩⟩

def world : World := { heap := ⟨[{}]⟩ }

end Stumbling

theorem stumbling_freeze_resumes :
    ∃ pipeline q v, Processor.Freezes Stumbling.book (Stumbling.processor, Stumbling.world)
        [.attach 0 "first" (.reason "no"), .attach 2 "third" (.reason "never")]
        pipeline (q, v) ∧
      pipeline.transformers.map Bound.index = [1] ∧ pipeline.parser.isSome = true ∧
      v.data ⟨0⟩ = ({} : Namespace).insert "mark" .null := by
  have valid : Stumbling.world.heap.Valid Stumbling.processor.store := Nat.one_pos
  have resumes := freezing_resumes Stumbling.book (p := Stumbling.processor) rfl valid
  rw [Setup.pass_of_some rfl, Setup.pass_of_some rfl, Setup.pass_of_some rfl,
    Setup.pass_of_none rfl] at resumes
  exact ⟨_, _, _, resumes.1, rfl, rfl, resumes.2.1⟩

end DocPipeline
