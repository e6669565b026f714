import DocPipeline.Attach
import DocPipeline.Journal

/-!
# Configurations and how they freeze

A configuration holds the registry, the two slots, the transformers contributed
so far, and a cursor: the attachers before it have had their turn.  Freezing
gives each attacher from the cursor on its turn, including those that other
attachers register meanwhile.  The cursor moves before an attacher is invoked,
so one that fails has had its turn as well.
-/

namespace DocPipeline

structure Configuration where
  registry : Registry := {}
  parser : Option Parser := none
  compiler : Option Compiler := none
  transformers : List Bound := []
  cursor : Nat := 0

instance : Inhabited Configuration := ⟨{}⟩

structure Setup where
  config : Configuration
  data : Namespace
  journal : Journal

namespace Setup

def record (s : Setup) (e : Event) : Setup := { s with journal := s.journal ++ [e] }

def contribute (s : Setup) (t : Bound) : Setup :=
  { s with config := { s.config with transformers := s.config.transformers ++ [t] } }

def use (what : Pluggable) (s : Setup) : Except ProcessorError Unit × Setup :=
  let (result, registry, data) := what.applyTo (s.config.registry, s.data)
  (result.mapError .configuration, { s with config := { s.config with registry }, data })

theorem identities_use (what : Pluggable) (s : Setup) :
    s.config.registry.identities <+: (s.use what).2.config.registry.identities :=
  what.identities_applyTo (s.config.registry, s.data)

end Setup

/-! ## Attaching -/

namespace Attach

def handle : (op : Attach.Op) → Setup → Attach.Answer op × Setup
  | .setParser parser, s => ((), { s with config := { s.config with parser := some parser } })
  | .setCompiler compiler, s =>
      ((), { s with config := { s.config with compiler := some compiler } })
  | .slots, s => ((s.config.parser.isSome, s.config.compiler.isSome), s)
  | .data, s => (s.data, s)
  | .setData key v, s => ((), { s with data := s.data.insert key v })
  | .use what, s => s.use what
  | .note v, s => ((), s.record (.noted v))

theorem cursor_handle (op : Attach.Op) (s : Setup) :
    (handle op s).2.config.cursor = s.config.cursor := by
  cases op <;> rfl

theorem identities_handle (op : Attach.Op) (s : Setup) :
    s.config.registry.identities <+: (handle op s).2.config.registry.identities := by
  cases op with
  | use what => exact s.identities_use what
  | _ => exact List.prefix_rfl

variable {α : Type}

theorem cursor_run (p : Program Attach α) (s : Setup) :
    (p.run handle s).2.config.cursor = s.config.cursor := by
  induction p generalizing s with
  | done a => rfl
  | perform op next ih => exact (ih _ _).trans (cursor_handle op s)

theorem identities_run (p : Program Attach α) (s : Setup) :
    s.config.registry.identities <+: (p.run handle s).2.config.registry.identities := by
  induction p generalizing s with
  | done a => exact List.prefix_rfl
  | perform op next ih => exact (identities_handle op s).trans (ih _ _)

end Attach

namespace Configuration

def next? (c : Configuration) : Option Attacher := c.registry.attachers[c.cursor]?

def advance (c : Configuration) : Configuration := { c with cursor := c.cursor + 1 }

def passed (c : Configuration) : List Identity := c.registry.identities.take c.cursor

/-- The listed plugins that have not had their turn. -/
def unattached (book : Book) (c : Configuration) : List Identity :=
  book.identities.filter fun i => i ∉ c.passed

def remaining (c : Configuration) : Nat := c.registry.size - c.cursor

end Configuration

namespace Setup

def attachOne (book : Book) (s : Setup) (a : Attacher) :
    Except ProcessorError Unit × Setup :=
  let index := s.config.cursor
  let s := { s with config := s.config.advance }
  if a.enabled then
    let behaviour := book.behaviour a.identity index a.plugin.name a.options
    match behaviour.run Attach.handle (s.record (.attached index a.plugin.name)) with
    | (.error source, s) => (.error (.attach index a.plugin.name source), s)
    | (.ok none, s) => (.ok (), s)
    | (.ok (some t), s) => (.ok (), s.contribute ⟨index, a.plugin.name, t⟩)
  else (.ok (), s)

theorem cursor_attachOne (book : Book) (s : Setup) (a : Attacher) :
    (s.attachOne book a).2.config.cursor = s.config.cursor + 1 := by
  have run := Attach.cursor_run
    (book.behaviour a.identity s.config.cursor a.plugin.name a.options)
    ({ s with config := s.config.advance }.record
      (.attached s.config.cursor a.plugin.name))
  unfold attachOne
  split
  · dsimp only
    split <;> (next heq => rw [heq] at run; exact run)
  · rfl

theorem identities_attachOne (book : Book) (s : Setup) (a : Attacher) :
    s.config.registry.identities <+:
      (s.attachOne book a).2.config.registry.identities := by
  have run := Attach.identities_run
    (book.behaviour a.identity s.config.cursor a.plugin.name a.options)
    ({ s with config := s.config.advance }.record
      (.attached s.config.cursor a.plugin.name))
  unfold attachOne
  split
  · dsimp only
    split <;> (next heq => rw [heq] at run; exact run)
  · exact List.prefix_rfl

/-- A plugin that the book does not list leaves the registry as it is. -/
theorem registry_attachOne_of_not_mem {book : Book} {s : Setup} {a : Attacher}
    (h : a.identity ∉ book.identities) :
    (s.attachOne book a).2.config.registry = s.config.registry := by
  unfold attachOne
  rw [Book.behaviour_of_not_mem h]
  split <;> rfl

theorem passed_attachOne {book : Book} {s : Setup} {a : Attacher}
    (h : s.config.next? = some a) :
    (s.attachOne book a).2.config.passed = s.config.passed ++ [a.identity] := by
  obtain ⟨more, hmore⟩ := s.identities_attachOne book a
  have hget : s.config.registry.identities[s.config.cursor]? = some a.identity := by
    simp only [Registry.identities, List.getElem?_map]
    exact congrArg (Option.map Attacher.identity) h
  have hlt : s.config.cursor < s.config.registry.identities.length :=
    (List.getElem?_eq_some_iff.1 hget).1
  simp only [Configuration.passed, cursor_attachOne, ← hmore]
  rw [List.take_append_of_le_length hlt, List.take_add_one, hget]
  rfl

theorem unattached_attachOne {book : Book} {s : Setup} {a : Attacher}
    (h : s.config.next? = some a) :
    (s.attachOne book a).2.config.unattached book =
      (s.config.unattached book).filter (· ≠ a.identity) := by
  simp only [Configuration.unattached, passed_attachOne h, List.filter_filter,
    List.mem_append, List.mem_singleton, not_or]
  refine List.filter_congr fun i _ => ?_
  by_cases h₁ : i ∈ s.config.passed <;> by_cases h₂ : i = a.identity <;> simp [h₁, h₂]

/-- The attacher at the cursor has not been passed, since identities are distinct. -/
theorem next_not_mem_passed {c : Configuration} {a : Attacher} (h : c.next? = some a) :
    a.identity ∉ c.passed := by
  obtain ⟨hlt, hget⟩ := List.getElem?_eq_some_iff.1 h
  intro hmem
  obtain ⟨j, hj, hja⟩ := List.mem_take_iff_getElem.1 hmem
  have hlen : c.registry.identities.length = c.registry.attachers.length :=
    List.length_map ..
  have hin : c.cursor < c.registry.identities.length := by omega
  have hc : c.registry.identities[c.cursor] = a.identity := by
    simp [Registry.identities, hget]
  have distinct : c.registry.identities.Nodup := c.registry.distinct
  exact List.pairwise_iff_getElem.1 distinct j c.cursor (by omega) (by omega)
    (by omega) (hja.trans hc.symm)

/-- Either fewer listed plugins are left to attach, or fewer attachers remain. -/
theorem attachOne_decreases {book : Book} {s : Setup} {a : Attacher}
    (h : s.config.next? = some a) :
    Prod.Lex (· < ·) (· < ·)
      (((s.attachOne book a).2.config.unattached book).length,
        (s.attachOne book a).2.config.remaining)
      ((s.config.unattached book).length, s.config.remaining) := by
  rw [unattached_attachOne h]
  by_cases hm : a.identity ∈ book.identities
  · refine .left _ _ (List.length_filter_lt_length_iff_exists.2 ⟨a.identity, ?_, by simp⟩)
    exact List.mem_filter.2 ⟨hm, by simpa using next_not_mem_passed h⟩
  · have hsame : (s.config.unattached book).filter (· ≠ a.identity) =
        s.config.unattached book := by
      refine List.filter_eq_self.2 fun i hi => ?_
      simp only [ne_eq, decide_not, Bool.not_eq_true', decide_eq_false_iff_not]
      exact fun he => hm (he ▸ (List.mem_filter.1 hi).1)
    rw [hsame]
    refine .right _ ?_
    have hlt : s.config.cursor < s.config.registry.attachers.length :=
      (List.getElem?_eq_some_iff.1 h).1
    simp only [Configuration.remaining, Registry.size, cursor_attachOne,
      registry_attachOne_of_not_mem hm]
    omega

/-- Gives every attacher from the cursor on its turn, up to the first that fails. -/
def attachPending (book : Book) (s : Setup) : Except ProcessorError Unit × Setup :=
  match _hnext : s.config.next? with
  | none => (.ok (), s)
  | some a =>
      match _hone : s.attachOne book a with
      | (.ok (), s') => attachPending book s'
      | (.error e, s') => (.error e, s')
termination_by ((s.config.unattached book).length, s.config.remaining)
decreasing_by
  have decreases := @attachOne_decreases book _ _ _hnext
  rw [_hone] at decreases
  exact decreases

variable {book : Book} {s : Setup} {a : Attacher}

theorem attachPending_of_none (next : s.config.next? = none) :
    s.attachPending book = (.ok (), s) := by
  rw [attachPending]
  split
  · rfl
  · next heq => simp [next] at heq

theorem attachPending_of_some (next : s.config.next? = some a) :
    s.attachPending book =
      match s.attachOne book a with
      | (.ok (), t) => t.attachPending book
      | (.error e, t) => (.error e, t) := by
  rw [attachPending]
  split
  · next heq => simp [next] at heq
  · next b heq =>
    obtain rfl : a = b := by simpa [next] using heq
    split <;> simp_all

theorem attachPending_of_ok {t : Setup} (next : s.config.next? = some a)
    (visit : s.attachOne book a = (.ok (), t)) :
    s.attachPending book = t.attachPending book := by
  rw [attachPending_of_some next, visit]

end Setup

end DocPipeline
