import DocPipeline.Proofs.Execution
import DocPipeline.Proofs.Registration
import DocPipeline.Configuration

/-!
# Turns of attachers

Freezing gives the attachers their turns one after the other.  A turn moves the
cursor by one, invokes the attacher if it is enabled at that moment, and adds at
most one transformer; the attacher itself may only add plugins at the end and
change the options and flags of entries in place.
-/

namespace DocPipeline

def Event.attached? : Event → Option (Nat × String)
  | .attached index plugin => some (index, plugin)
  | _ => none

def Journal.attached (journal : Journal) : List (Nat × String) :=
  journal.filterMap Event.attached?

/-! ## What an attacher can do -/

namespace Setup

/-- What may differ between two moments while one attacher runs. -/
structure Grows (s t : Setup) : Prop where
  plugins : s.config.registry.plugins <+: t.config.registry.plugins
  cursor : t.config.cursor = s.config.cursor
  transformers : t.config.transformers = s.config.transformers
  journal : ∃ notes, t.journal = s.journal ++ notes ∧ Journal.attached notes = []

theorem Grows.refl (s : Setup) : s.Grows s :=
  ⟨List.prefix_rfl, rfl, rfl, [], by simp, rfl⟩

theorem Grows.trans {s t u : Setup} (h : s.Grows t) (h' : t.Grows u) : s.Grows u := by
  obtain ⟨notes, hnotes, hnone⟩ := h.journal
  obtain ⟨notes', hnotes', hnone'⟩ := h'.journal
  refine ⟨h.plugins.trans h'.plugins, h'.cursor.trans h.cursor,
    h'.transformers.trans h.transformers, notes ++ notes', ?_, ?_⟩
  · rw [hnotes', hnotes, List.append_assoc]
  · simp only [Journal.attached, List.filterMap_append] at *
    rw [hnone, hnone', List.append_nil]

end Setup

theorem Attach.grows_handle (op : Attach.Op) (s : Setup) : s.Grows (handle op s).2 := by
  have same : ∃ notes, s.journal = s.journal ++ notes ∧ Journal.attached notes = [] :=
    ⟨[], by simp, rfl⟩
  cases op with
  | use what =>
      exact ⟨what.plugins_applyTo (s.config.registry, s.data), rfl, rfl, same⟩
  | note v => exact ⟨List.prefix_rfl, rfl, rfl, [.noted v], rfl, rfl⟩
  | _ => exact ⟨List.prefix_rfl, rfl, rfl, same⟩

theorem Attach.grows_run {α : Type} (p : Program Attach α) (s : Setup) :
    s.Grows (p.run handle s).2 :=
  p.run_preserves (fun op t h => h.trans (grows_handle op t)) (Setup.Grows.refl s)

/-! ## Turns -/

/-- An attacher as it stood when it had its turn, and what it contributed then. -/
structure Turn where
  attacher : Attacher
  transformer : Option Transformer
  enabled : transformer.isSome = true → attacher.enabled = true

namespace Turn

def plugin (turn : Turn) : Plugin := turn.attacher.plugin

def invocation? (turn : Turn) (index : Nat) : Option (Nat × String) :=
  if turn.attacher.enabled then some (index, turn.plugin.name) else none

def contribution? (turn : Turn) (index : Nat) : Option Bound :=
  turn.transformer.map fun t => ⟨index, turn.plugin.name, t⟩

def invocations (turns : List Turn) : List (Nat × String) :=
  turns.zipIdx.filterMap fun (turn, index) => turn.invocation? index

def contributions (turns : List Turn) : List Bound :=
  turns.zipIdx.filterMap fun (turn, index) => turn.contribution? index

theorem key_invocation? {turn : Turn} {index : Nat} {e : Nat × String}
    (h : turn.invocation? index = some e) :
    turn.attacher.enabled = true ∧ e = (index, turn.plugin.name) := by
  unfold invocation? at h
  split at h
  · next on => exact ⟨on, by simpa using h.symm⟩
  · cases h

theorem key_contribution? {turn : Turn} {index : Nat} {b : Bound}
    (h : turn.contribution? index = some b) :
    b.index = index ∧ b.plugin = turn.plugin.name ∧ turn.transformer = some b.transformer := by
  obtain ⟨t, ht, rfl⟩ := Option.map_eq_some_iff.1 h
  exact ⟨rfl, rfl, ht⟩

theorem invocations_append (turns : List Turn) (turn : Turn) :
    invocations (turns ++ [turn]) =
      invocations turns ++ (turn.invocation? turns.length).toList := by
  simp only [invocations, List.zipIdx_append, List.filterMap_append]
  cases h : turn.invocation? turns.length <;> simp [h]

theorem contributions_append (turns : List Turn) (turn : Turn) :
    contributions (turns ++ [turn]) =
      contributions turns ++ (turn.contribution? turns.length).toList := by
  simp only [contributions, List.zipIdx_append, List.filterMap_append]
  cases h : turn.contribution? turns.length <;> simp [h]

variable {β : Type} (f : Turn → Nat → Option β)

theorem mem_of_indices {turns : List Turn} {b : β}
    (h : b ∈ turns.zipIdx.filterMap fun (turn, index) => f turn index) :
    ∃ turn index, turns[index]? = some turn ∧ f turn index = some b := by
  obtain ⟨⟨turn, index⟩, hmem, hb⟩ := List.mem_filterMap.1 h
  exact ⟨turn, index, List.mk_mem_zipIdx_iff_getElem?.1 hmem, hb⟩

theorem pairwise_of_indices (key : β → Nat)
    (hkey : ∀ turn index b, f turn index = some b → key b = index) (turns : List Turn) :
    (turns.zipIdx.filterMap fun (turn, index) => f turn index).Pairwise
      fun b c => key b < key c := by
  have indices : (turns.zipIdx.map Prod.snd).Pairwise (· < ·) := by
    rw [List.zipIdx_map_snd]
    exact List.pairwise_lt_range' ..
  rw [List.pairwise_filterMap]
  refine (List.pairwise_map.1 indices).imp ?_
  intro x y hlt b hb c hc
  rw [hkey _ _ _ hb, hkey _ _ _ hc]
  exact hlt

end Turn

namespace Setup

/-- Invokes the attacher at the cursor, which has moved on. -/
def attach (book : Book) (s : Setup) (a : Attacher) :
    Except Cause (Option Transformer) × Setup :=
  (book.behaviour a.identity s.config.cursor a.plugin.name a.options).run Attach.handle
    ({ s with config := s.config.advance }.record
      (.attached s.config.cursor a.plugin.name))

def turn (book : Book) (s : Setup) (a : Attacher) : Turn where
  attacher := a
  transformer :=
    if a.enabled then
      match (s.attach book a).1 with
      | .ok transformer => transformer
      | .error _ => none
    else none
  enabled := by
    split
    · intro _
      assumption
    · simp

structure Turned (s : Setup) (turn : Turn) (t : Setup) : Prop where
  plugins : s.config.registry.plugins <+: t.config.registry.plugins
  cursor : t.config.cursor = s.config.cursor + 1
  transformers : t.config.transformers =
    s.config.transformers ++ (turn.contribution? s.config.cursor).toList
  journal : ∃ events, t.journal = s.journal ++ events ∧
    Journal.attached events = (turn.invocation? s.config.cursor).toList

theorem attachOne_of_enabled {book : Book} {s : Setup} {a : Attacher}
    (on : a.enabled = true) :
    s.attachOne book a =
      match s.attach book a with
      | (.error source, t) => (.error (.attach s.config.cursor a.plugin.name source), t)
      | (.ok none, t) => (.ok (), t)
      | (.ok (some transformer), t) =>
          (.ok (), t.contribute ⟨s.config.cursor, a.plugin.name, transformer⟩) := by
  unfold attachOne
  rw [if_pos on]
  rfl

theorem attach_grows (book : Book) (s : Setup) (a : Attacher) :
    ({ s with config := s.config.advance }.record
      (.attached s.config.cursor a.plugin.name)).Grows (s.attach book a).2 :=
  Attach.grows_run _ _

theorem attachOne_turned (book : Book) (s : Setup) (a : Attacher) :
    s.Turned (s.turn book a) (s.attachOne book a).2 := by
  cases on : a.enabled with
  | false =>
      have skipped : s.attachOne book a = (.ok (), { s with config := s.config.advance }) := by
        simp [attachOne, on]
      rw [skipped]
      refine ⟨List.prefix_rfl, rfl, ?_, [], by simp, ?_⟩
      · simp [Turn.contribution?, turn, on, Configuration.advance]
      · simp [Turn.invocation?, turn, on, Journal.attached]
  | true =>
      have grows := s.attach_grows book a
      rw [attachOne_of_enabled on]
      cases run : s.attach book a with
      | mk returned t =>
          rw [run] at grows
          have cursor : t.config.cursor = s.config.cursor + 1 := grows.cursor
          have transformers : t.config.transformers = s.config.transformers :=
            grows.transformers
          have journal : ∃ events, t.journal = s.journal ++ events ∧
              Journal.attached events = [(s.config.cursor, a.plugin.name)] := by
            obtain ⟨notes, hnotes, hnone⟩ := grows.journal
            refine ⟨.attached s.config.cursor a.plugin.name :: notes, ?_, ?_⟩
            · exact hnotes.trans (List.append_assoc ..)
            · simp only [Journal.attached] at hnone
              simp [Journal.attached, Event.attached?, hnone]
          have reported : (s.turn book a).invocation? s.config.cursor =
              some (s.config.cursor, a.plugin.name) := by
            simp [Turn.invocation?, turn, on, Turn.plugin]
          match returned with
          | .error source | .ok none =>
              refine ⟨grows.plugins, cursor, ?_, by rw [reported]; exact journal⟩
              simp [Turn.contribution?, turn, on, run, transformers]
          | .ok (some transformer) =>
              refine ⟨grows.plugins, cursor, ?_, by rw [reported]; exact journal⟩
              simp [Turn.contribution?, turn, on, run, transformers, contribute, Turn.plugin]

def turns (book : Book) (s : Setup) : List Turn :=
  match _hnext : s.config.next? with
  | none => []
  | some a =>
      match _hone : s.attachOne book a with
      | (.ok (), t) => s.turn book a :: turns book t
      | (.error _, _) => [s.turn book a]
termination_by ((s.config.unattached book).length, s.config.remaining)
decreasing_by
  have decreases := @attachOne_decreases book _ _ _hnext
  rw [_hone] at decreases
  exact decreases

theorem turns_of_none {book : Book} {s : Setup} (hnext : s.config.next? = none) :
    s.turns book = [] := by
  rw [turns, hnext]

theorem turns_of_ok {book : Book} {s t : Setup} {a : Attacher}
    (hnext : s.config.next? = some a) (hone : s.attachOne book a = (.ok (), t)) :
    s.turns book = s.turn book a :: t.turns book := by
  rw [turns]
  split
  · next heq => simp [hnext] at heq
  · next b heq =>
    obtain rfl : a = b := by simpa [hnext] using heq
    split <;> simp_all

theorem turns_of_error {book : Book} {s t : Setup} {a : Attacher} {e : ProcessorError}
    (hnext : s.config.next? = some a) (hone : s.attachOne book a = (.error e, t)) :
    s.turns book = [s.turn book a] := by
  rw [turns]
  split
  · next heq => simp [hnext] at heq
  · next b heq =>
    obtain rfl : a = b := by simpa [hnext] using heq
    split <;> simp_all

end Setup

/-! ## The invariant of a configuration -/

/--
A configuration tells its past: the entries before the cursor are those that had
their turns, in order; the enabled ones were invoked then, and the transformers
are what they contributed.
-/
structure Configuration.Tells (turns : List Turn) (attached : List (Nat × String))
    (c : Configuration) : Prop where
  cursor : c.cursor = turns.length
  passed : turns.map Turn.plugin <+: c.registry.plugins
  attached : attached = Turn.invocations turns
  transformers : c.transformers = Turn.contributions turns

namespace Configuration

variable {turns : List Turn} {attached : List (Nat × String)} {c : Configuration}

theorem tells_nil (hcursor : c.cursor = 0) (htransformers : c.transformers = []) :
    c.Tells [] [] :=
  ⟨hcursor, List.nil_prefix, rfl, htransformers⟩

theorem Tells.cursor_le (h : c.Tells turns attached) : c.cursor ≤ c.registry.size := by
  have shorter := h.passed.length_le
  rwa [List.length_map, ← h.cursor, Registry.length_plugins] at shorter

theorem Tells.size_of_done (h : c.Tells turns attached) (done : c.next? = none) :
    c.registry.size = c.cursor := by
  have all : c.registry.attachers.length ≤ c.cursor := List.getElem?_eq_none_iff.1 done
  exact Nat.le_antisymm all h.cursor_le

end Configuration

private theorem isPrefix_snoc {α : Type} {l m : List α} {x : α} (h : l <+: m)
    (hx : m[l.length]? = some x) : l ++ [x] <+: m := by
  obtain ⟨rest, rfl⟩ := h
  cases rest with
  | nil => simp at hx
  | cons y rest =>
      obtain rfl : y = x := by simpa using hx
      exact ⟨rest, by simp⟩

namespace Setup

variable {book : Book} {s t : Setup} {turns : List Turn} {attached : List (Nat × String)}

theorem Turned.tells {turn : Turn} {a : Attacher} (h : s.Turned turn t)
    (tells : s.config.Tells turns attached) (next : s.config.next? = some a)
    (plugin : turn.plugin = a.plugin) :
    ∃ events, t.journal = s.journal ++ events ∧
      t.config.Tells (turns ++ [turn]) (attached ++ Journal.attached events) := by
  obtain ⟨hcursor, hpassed, rfl, htransformers⟩ := tells
  obtain ⟨events, hevents, hinvoked⟩ := h.journal
  have here : s.config.registry.plugins[(turns.map Turn.plugin).length]? =
      some turn.plugin := by
    rw [List.length_map, ← hcursor, plugin]
    simp only [Registry.plugins, List.getElem?_map]
    exact congrArg (Option.map Attacher.plugin) next
  refine ⟨events, hevents, ?_, ?_, ?_, ?_⟩
  · rw [h.cursor, hcursor, List.length_append, List.length_singleton]
  · rw [List.map_append]
    exact (isPrefix_snoc hpassed here).trans h.plugins
  · rw [hinvoked, Turn.invocations_append, hcursor]
  · rw [h.transformers, Turn.contributions_append, htransformers, hcursor]

theorem attachOne_tells (book : Book) {a : Attacher} (tells : s.config.Tells turns attached)
    (next : s.config.next? = some a) :
    ∃ events, (s.attachOne book a).2.journal = s.journal ++ events ∧
      (s.attachOne book a).2.config.Tells (turns ++ [s.turn book a])
        (attached ++ Journal.attached events) :=
  (s.attachOne_turned book a).tells tells next rfl

theorem attachPending_tells (book : Book) (tells : s.config.Tells turns attached) :
    ∃ events, (s.attachPending book).2.journal = s.journal ++ events ∧
      (s.attachPending book).2.config.Tells (turns ++ s.turns book)
        (attached ++ Journal.attached events) := by
  fun_induction attachPending book s generalizing turns attached with
  | case1 s hnext =>
      rw [turns_of_none hnext]
      exact ⟨[], by simp, by simpa [Journal.attached] using tells⟩
  | case2 s a hnext t hone ih =>
      have one := attachOne_tells book tells hnext
      rw [hone] at one
      obtain ⟨events, hevents, tells⟩ := one
      obtain ⟨events', hevents', tells'⟩ := ih tells
      refine ⟨events ++ events', ?_, ?_⟩
      · rw [hevents', hevents, List.append_assoc]
      · rw [turns_of_ok hnext hone]
        simpa [Journal.attached, List.append_assoc] using tells'
  | case3 s a hnext e t hone =>
      have one := attachOne_tells book tells hnext
      rw [hone] at one
      rw [turns_of_error hnext hone]
      exact one

theorem plugins_attachPending (book : Book) (s : Setup) :
    s.config.registry.plugins <+: (s.attachPending book).2.config.registry.plugins := by
  fun_induction attachPending book s with
  | case1 s hnext => exact List.prefix_rfl
  | case2 s a hnext t hone ih =>
      have one := (s.attachOne_turned book a).plugins
      rw [hone] at one
      exact one.trans ih
  | case3 s a hnext e t hone =>
      have one := (s.attachOne_turned book a).plugins
      rw [hone] at one
      exact one

theorem next_attachPending {u : Unit} (h : (s.attachPending book).1 = .ok u) :
    (s.attachPending book).2.config.next? = none := by
  fun_induction attachPending book s with
  | case1 s hnext => exact hnext
  | case2 s a hnext t hone ih => exact ih h
  | case3 s a hnext e t hone => cases h

end Setup

end DocPipeline
