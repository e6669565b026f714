import DocPipeline.Proofs.BuiltinPipelines

/-!
# What built-in plugins make of a document

What a built-in plugin puts into a slot depends on its options and the settings
only, and what its transformer makes of a document on its options and the
document.  So a pipeline of them is told by its list of attachers.
-/

namespace DocPipeline

namespace Turn

/-- The contributions of turns, the first of which is this one. -/
def contributionsFrom (first : Nat) (turns : List Turn) : List Bound :=
  (turns.zipIdx first).filterMap fun (turn, index) => turn.contribution? index

theorem contributions_eq_from (turns : List Turn) : contributions turns = contributionsFrom 0 turns :=
  rfl

theorem contributionsFrom_cons (first : Nat) (turn : Turn) (turns : List Turn) :
    contributionsFrom first (turn :: turns) =
      (turn.contribution? first).toList ++ contributionsFrom (first + 1) turns := by
  rw [contributionsFrom, List.zipIdx_cons, List.filterMap_cons]
  dsimp only
  cases turn.contribution? first <;> rfl

end Turn

namespace Builtin

/-! ## Slots -/

def parser? (settings : Option Object) (a : Attacher) : Option Parser :=
  if a.enabled then
    match a.plugin.name with
    | "text_parse" => some (textParser (wantsTrim a.options settings))
    | _ => none
  else none

def compiler? (a : Attacher) : Option Compiler :=
  if a.enabled then
    match a.plugin.name with
    | "text_stringify" => some textCompiler
    | _ => none
  else none

/-- What is in a slot once all these attachers have had their turn. -/
def slot {α : Type} (fill? : Attacher → Option α) (before : Option α) (as : List Attacher) :
    Option α :=
  as.foldl (fun slot a => (fill? a).or slot) before

theorem slot_of_none {α : Type} {fill? : Attacher → Option α} {as : List Attacher}
    (none : ∀ a ∈ as, fill? a = none) (before : Option α) : slot fill? before as = before := by
  induction as with
  | nil => rfl
  | cons a as ih =>
      obtain ⟨here, later⟩ := List.forall_mem_cons.1 none
      have rest := ih later
      simpa [slot, here] using rest

/-- The slots are filled by these attachers, and the data stay. -/
structure Fills (as : List Attacher) (s t : Setup) : Prop where
  data : t.data = s.data
  parser : t.config.parser = slot (parser? s.data.settings?) s.config.parser as
  compiler : t.config.compiler = slot compiler? s.config.compiler as

theorem Fills.cons {a : Attacher} {as : List Attacher} {s t u : Setup} (first : Fills [a] s t)
    (rest : Fills as t u) : Fills (a :: as) s u where
  data := rest.data.trans first.data
  parser := by
    rw [rest.parser, first.parser, first.data]
    rfl
  compiler := by
    rw [rest.compiler, first.compiler]
    rfl

variable {s : Setup} {a : Attacher}

theorem fills_attachOne (listed : Listed a.plugin) (s : Setup) :
    Fills [a] s (s.attachOne book a).2 := by
  obtain ⟨own, options, enabled⟩ := a
  obtain ⟨name, known, rfl⟩ : Listed own := listed
  cases enabled with
  | false => exact ⟨rfl, rfl, rfl⟩
  | true =>
      simp only [names, behaviours, List.map_cons, List.map_nil, List.mem_cons, List.not_mem_nil,
        or_false] at known
      rcases known with rfl | rfl | rfl | rfl | rfl | rfl <;> exact ⟨rfl, rfl, rfl⟩

theorem fills_attachPending (stocked : Stocked s.config) :
    Fills (s.config.registry.attachers.drop s.config.cursor) s (s.attachPending book).2 := by
  -- the attachers still due are those behind the cursor, one less after each turn
  generalize hbook : book = b
  fun_induction Setup.attachPending b s with
  | case1 s next =>
      rw [Configuration.drop_of_next?_none next]
      exact ⟨rfl, rfl, rfl⟩
  | case2 s a next t one ih =>
      subst hbook
      have listed := stocked.listed a (List.mem_of_getElem? next)
      have fills := fills_attachOne listed s
      obtain ⟨t', one', keeps⟩ := attachOne_of_listed listed s
      obtain rfl : t' = t := congrArg Prod.snd (one'.symm.trans one)
      have rest := ih (keeps.stocked stocked)
      have cursor := s.cursor_attachOne book a
      rw [one] at fills cursor
      rw [cursor, keeps.registry] at rest
      rw [Configuration.drop_of_next?_some next]
      exact fills.cons rest
  | case3 s a next e t one =>
      subst hbook
      obtain ⟨t', one', -⟩ := attachOne_of_listed (stocked.listed a (List.mem_of_getElem? next)) s
      rw [one] at one'
      cases one'

/-! ## Transformers -/

def worked (a : Attacher) (d : Document) : Document :=
  if a.enabled then effect a.plugin.name a.options d else d

theorem effect_of_none {name : String} {options : List Value}
    (h : contribution? name options = none) (d : Document) : effect name options d = d := by
  unfold contribution? at h
  split at h
  iterate 4 cases h
  · next uppercase trim count annotate =>
      unfold effect
      split
      · exact (uppercase rfl).elim
      · exact (trim rfl).elim
      · exact (count rfl).elim
      · exact (annotate rfl).elim
      · rfl

variable {b : Bound} {k : Nat}

theorem worked_of_none (h : (turn a).contribution? k = none) (d : Document) : worked a d = d := by
  unfold worked
  split
  · next on =>
      refine effect_of_none ?_ d
      simpa [Turn.contribution?, turn, on] using h
  · rfl

theorem worked_of_some (h : (turn a).contribution? k = some b) (d : Document) :
    contribution? b.plugin a.options = some b.transformer ∧
      worked a d = effect b.plugin a.options d := by
  obtain ⟨-, named, transformer⟩ := Turn.key_contribution? h
  have on : a.enabled = true := (turn a).enabled (Option.isSome_of_eq_some transformer)
  have own : (if a.enabled then contribution? a.plugin.name a.options else none) =
    some b.transformer := transformer
  rw [if_pos on] at own
  rw [named, worked, if_pos on]
  exact ⟨own, rfl⟩

theorem advance_of_turns (store : Namespace.Handle) (as : List Attacher) (k : Nat)
    (d : Document) (w : World) :
    ∃ v, Run.advance store (Turn.contributionsFrom k (as.map turn)) d w =
      (.finished (.ok (as.foldl (fun d a => worked a d) d)), v) := by
  induction as generalizing k d w with
  | nil => exact ⟨w, rfl⟩
  | cons a as ih =>
      rw [List.map_cons, Turn.contributionsFrom_cons, List.foldl_cons]
      cases contributed : (turn a).contribution? k with
      | none =>
          rw [worked_of_none contributed]
          exact ih (k + 1) d w
      | some b =>
          obtain ⟨own, same⟩ := worked_of_some contributed d
          obtain ⟨v, onward⟩ := advance_of_contribution own store d w
            (Turn.contributionsFrom (k + 1) (as.map turn))
          rw [Option.toList_some, List.singleton_append, onward, ← same]
          exact ih (k + 1) (worked a d) v

/-! ## Pipelines -/

variable {c : Configuration} {pipeline : Pipeline}

/-- Freezing fills the slots, too. -/
theorem Due.exists_frozen (due : Due c) (store : Namespace.Handle) (w : World) :
    ∃ pipeline v, Processor.freeze book ⟨.configuring c, store⟩ w =
        (.ok pipeline, ⟨.frozen pipeline, store⟩, v) ∧
      Sealed pipeline ∧ pipeline.registry = c.registry ∧
      pipeline.parser = slot (parser? (w.data store).settings?) c.parser c.registry.attachers ∧
      pipeline.compiler = slot compiler? c.compiler c.registry.attachers := by
  have sound : Sound ⟨.configuring c, store⟩ := due
  obtain ⟨pipeline, v, frozen, sealed, registry⟩ := sound.exists_frozen w
  let s : Setup := ⟨c, w.data store, w.journal⟩
  obtain ⟨t, attached, -, -⟩ := attachPending_of_stocked (s := s) due.toStocked
  have fills := fills_attachPending (s := s) due.toStocked
  have all : s.config.registry.attachers.drop s.config.cursor = c.registry.attachers := by
    rw [show s.config.cursor = 0 from due.cursor, List.drop_zero]
  rw [attached, all] at fills
  have made := frozen.symm.trans (Processor.freeze_sealed rfl attached)
  obtain ⟨same, -⟩ := Prod.mk.inj made
  cases same
  exact ⟨_, v, frozen, sealed, registry, fills.parser, fills.compiler⟩

theorem Sealed.around (h : Sealed pipeline) {file : File} {tree : Node}
    (parsed : pipeline.parse file = .ok tree) (store : Namespace.Handle) (w : World) :
    (pipeline.around (fun transformers d => Run.drive ⟨store, transformers, .at d⟩ w) file w).1 =
      some (pipeline.finish
        (pipeline.registry.attachers.foldl (fun d a => worked a d) ⟨tree, file⟩)) := by
  obtain ⟨v, finished⟩ := advance_of_turns store pipeline.registry.attachers 0 ⟨tree, file⟩ w
  rw [← Turn.contributions_eq_from, ← h.transformers] at finished
  rw [Pipeline.around, parsed]
  dsimp only
  rw [Run.drive_of_finished finished]
  rfl

end Builtin

end DocPipeline
