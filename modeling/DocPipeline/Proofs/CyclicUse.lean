import DocPipeline.Proofs.Turns
import Mathlib.Data.Finset.Card
import Mathlib.Data.List.Range

/-!
# Plugins that use each other

Attaching walks over a list that the attachers extend on the way, so the length
of the list is no bound on the walk.  It ends all the same if the plugins come
from a finite set: however often a plugin is used again it keeps its one entry,
and the cursor passes every entry once.
-/

namespace DocPipeline

/-! ## Visits, whatever the plugins do -/

/-- In some context, attaching the one plugin brings the other into the registry. -/
def BringsIn (behave : Identity → Behaviour) (i j : Identity) : Prop :=
  ∃ index name options, ∃ s : Setup, j ∉ s.config.registry.identities ∧
    j ∈ ((behave i index name options).run Attach.handle s).2.config.registry.identities

theorem Book.behaviour_single (i : Identity) (b : Behaviour) :
    (Book.mk [(i, b)]).behaviour i = b := by
  simp [behaviour]

namespace Setup

/-- Gives an attacher its turn; of all behaviours only its own matters. -/
def attachBy (behave : Identity → Behaviour) (s : Setup) (a : Attacher) :
    Except ProcessorError Unit × Setup :=
  s.attachOne ⟨[(a.identity, behave a.identity)]⟩ a

/--
The loop that attaches: each visit is to the attacher at the cursor, and the loop
ends behind the last attacher or with the first that fails.
-/
inductive Attaches (behave : Identity → Behaviour) :
    Setup → List (Nat × Attacher) → Except ProcessorError Unit × Setup → Prop
  | ended {s} (next : s.config.next? = none) : Attaches behave s [] (.ok (), s)
  | failed {s a e t} (next : s.config.next? = some a)
      (visit : s.attachBy behave a = (.error e, t)) :
      Attaches behave s [(s.config.cursor, a)] (.error e, t)
  | passed {s a t visits ended} (next : s.config.next? = some a)
      (visit : s.attachBy behave a = (.ok (), t)) (rest : Attaches behave t visits ended) :
      Attaches behave s ((s.config.cursor, a) :: visits) ended

variable {behave : Identity → Behaviour} {book : Book} {s t : Setup} {a : Attacher}
  {visits : List (Nat × Attacher)} {ended : Except ProcessorError Unit × Setup}

theorem attachOne_congr {other : Book}
    (same : book.behaviour a.identity = other.behaviour a.identity) :
    s.attachOne book a = s.attachOne other a := by
  unfold attachOne
  rw [same]

theorem attachBy_eq_attachOne (same : book.behaviour a.identity = behave a.identity) :
    s.attachBy behave a = s.attachOne book a := by
  refine attachOne_congr ?_
  rw [same, Book.behaviour_single]

theorem cursor_attachBy (behave : Identity → Behaviour) (s : Setup) (a : Attacher) :
    (s.attachBy behave a).2.config.cursor = s.config.cursor + 1 :=
  cursor_attachOne ..

theorem Attaches.unique {visits' : List (Nat × Attacher)}
    {ended' : Except ProcessorError Unit × Setup} (h : Attaches behave s visits ended)
    (h' : Attaches behave s visits' ended') : visits' = visits ∧ ended' = ended := by
  induction h generalizing visits' ended' with
  | ended next =>
      cases h' with
      | ended => exact ⟨rfl, rfl⟩
      | failed next' | passed next' => simp [next] at next'
  | failed next visit =>
      cases h' with
      | ended next' => simp [next] at next'
      | failed next' visit' => simp_all
      | passed next' visit' => simp_all
  | passed next visit _ ih =>
      cases h' with
      | ended next' => simp [next] at next'
      | failed next' visit' => simp_all
      | passed next' visit' rest' =>
          obtain rfl := Option.some.inj (next.symm.trans next')
          obtain rfl := (Prod.mk.inj (visit.symm.trans visit')).2
          obtain ⟨rfl, rfl⟩ := ih rest'
          exact ⟨rfl, rfl⟩

theorem Attaches.indices (h : Attaches behave s visits ended) :
    visits.map Prod.fst = List.range' s.config.cursor visits.length := by
  induction h with
  | ended | failed => rfl
  | @passed s a t visits _ _ visit _ ih =>
      have cursor := cursor_attachBy behave s a
      rw [visit] at cursor
      rw [List.map_cons, List.length_cons, List.range'_succ, ih, cursor]

/-! ## Plugins from a finite set -/

def Within (U : Finset Identity) (s : Setup) : Prop :=
  ∀ i ∈ s.config.registry.identities, i ∈ U

variable {U : Finset Identity}

/-- The entries are as many different plugins. -/
theorem Within.size_le (h : s.Within U) : s.config.registry.size ≤ U.card := by
  have distinct : s.config.registry.identities.Nodup := s.config.registry.distinct
  have inside : s.config.registry.identities.toFinset ⊆ U := fun i hi =>
    h i (List.mem_toFinset.1 hi)
  calc s.config.registry.size = s.config.registry.identities.length := (List.length_map _).symm
    _ = s.config.registry.identities.toFinset.card := (List.toFinset_card_of_nodup distinct).symm
    _ ≤ U.card := Finset.card_le_card inside

theorem registry_attachOne (book : Book) (s : Setup) (a : Attacher) :
    (s.attachOne book a).2.config.registry =
      if a.enabled then (s.attach book a).2.config.registry else s.config.registry := by
  cases on : a.enabled with
  | false =>
      unfold attachOne
      rw [on]
      rfl
  | true =>
      rw [attachOne_of_enabled on, if_pos rfl]
      rcases s.attach book a with ⟨source | (none | transformer), t⟩ <;> rfl

/-- A visit brings in nothing but what its plugin may bring in. -/
theorem Within.attachBy (h : s.Within U)
    (closed : ∀ i ∈ U, ∀ j, BringsIn behave i j → j ∈ U) (next : s.config.next? = some a) :
    (s.attachBy behave a).2.Within U := by
  intro j hj
  rw [Setup.attachBy, registry_attachOne] at hj
  by_cases old : j ∈ s.config.registry.identities
  · exact h j old
  · split at hj
    · have visited : a.identity ∈ U := by
        refine h _ (List.mem_map.2 ⟨a, List.mem_of_getElem? next, rfl⟩)
      refine closed _ visited j ⟨s.config.cursor, a.plugin.name, a.options,
        { s with config := s.config.advance }.record (.attached s.config.cursor a.plugin.name),
        old, ?_⟩
      simpa only [attach, Book.behaviour_single] using hj
    · exact absurd hj old

/-- Every visit leaves one plugin of the set less for the cursor to pass. -/
theorem Within.attaches (h : s.Within U)
    (closed : ∀ i ∈ U, ∀ j, BringsIn behave i j → j ∈ U) :
    ∃ visits ended, Attaches behave s visits ended ∧
      visits.length ≤ U.card - s.config.cursor := by
  generalize left : U.card - s.config.cursor = n
  induction n generalizing s with
  | zero =>
      have passed : s.config.next? = none := by
        refine List.getElem?_eq_none_iff.2 ?_
        have := h.size_le
        unfold Registry.size at this
        omega
      exact ⟨[], _, .ended passed, Nat.zero_le _⟩
  | succ n ih =>
      cases next : s.config.next? with
      | none => exact ⟨[], _, .ended next, Nat.zero_le _⟩
      | some a =>
          have within := h.attachBy closed next
          have cursor := cursor_attachBy behave s a
          rcases visit : s.attachBy behave a with ⟨e | done, t⟩
          · exact ⟨_, _, .failed next visit, Nat.succ_le_succ (Nat.zero_le n)⟩
          · rw [visit] at within cursor
            obtain ⟨visits, ended, rest, bound⟩ := ih within (by omega)
            exact ⟨_, _, .passed next visit rest, Nat.succ_le_succ bound⟩

/-! ## The loop of a book -/

/-- A book with the same behaviours for the plugins of the set goes through the same loop. -/
theorem Attaches.attachPending (attaches : Attaches behave s visits ended) (h : s.Within U)
    (closed : ∀ i ∈ U, ∀ j, BringsIn behave i j → j ∈ U)
    (agrees : ∀ i ∈ U, book.behaviour i = behave i) : s.attachPending book = ended := by
  have listed {s : Setup} {a : Attacher} (h : s.Within U) (next : s.config.next? = some a) :
      s.attachBy behave a = s.attachOne book a := by
    refine attachBy_eq_attachOne (agrees _ (h _ ?_))
    exact List.mem_map.2 ⟨a, List.mem_of_getElem? next, rfl⟩
  induction attaches with
  | ended next => exact attachPending_of_none next
  | failed next visit =>
      rw [attachPending_of_some next, ← listed h next, visit]
  | passed next visit _ ih =>
      have within := h.attachBy closed next
      rw [visit] at within
      rw [attachPending_of_ok next ((listed h next).symm.trans visit)]
      exact ih within

end Setup

/--
If the plugins in use belong to a finite set that is closed under bringing in
others, the loop that attaches ends, in one way only, after no more visits than
the set has plugins from the cursor on, and it visits no index twice.
-/
theorem attaching_ends {behave : Identity → Behaviour} {U : Finset Identity} {s : Setup}
    (registered : ∀ i ∈ s.config.registry.identities, i ∈ U)
    (closed : ∀ i ∈ U, ∀ j, BringsIn behave i j → j ∈ U) :
    ∃ visits ended, Setup.Attaches behave s visits ended ∧
      visits.length ≤ U.card - s.config.cursor ∧
      (visits.map Prod.fst).Nodup ∧
      (∀ visits' ended', Setup.Attaches behave s visits' ended' →
        visits' = visits ∧ ended' = ended) ∧
      ∀ book : Book, (∀ i ∈ U, book.behaviour i = behave i) → s.attachPending book = ended := by
  have within : s.Within U := registered
  obtain ⟨visits, ended, attaches, bound⟩ := within.attaches closed
  refine ⟨visits, ended, attaches, bound, ?_, fun _ _ => attaches.unique, ?_⟩
  · rw [attaches.indices]
    exact List.nodup_range'
  · intro book agrees
    exact attaches.attachPending within closed agrees

/-! ## Two plugins that go round in a circle -/

namespace Circling

def ping : Plugin := ⟨⟨"own", "ping"⟩, "ping"⟩

def pong : Plugin := ⟨⟨"own", "pong"⟩, "pong"⟩

/-- Either plugin uses the other and itself, with one option more than it was given. -/
def behave : Identity → Behaviour := fun _ _ _ options => do
  let _ ← Attach.use (.entry ping (.null :: options))
  let _ ← Attach.use (.entry pong (.null :: options))
  return .ok none

def book : Book where
  entries := [ping, pong].map fun plugin => (plugin.identity, behave plugin.identity)

def plugins : Finset Identity := {ping.identity, pong.identity}

def setup : Setup where
  config := { registry := Registry.register {} ⟨ping, [], true⟩ }
  data := {}
  journal := []

theorem plugins_closed (i j : Identity) (h : BringsIn behave i j) : j ∈ plugins := by
  obtain ⟨index, name, options, s, new, there⟩ := h
  have registry : ((behave i index name options).run Attach.handle s).2.config.registry =
      (s.config.registry.register ⟨ping, .null :: options, true⟩).register
        ⟨pong, .null :: options, true⟩ := rfl
  rw [registry, Registry.mem_identities_register_iff, Registry.mem_identities_register_iff]
    at there
  rcases there with (old | rfl) | rfl
  · exact absurd old new
  · exact Finset.mem_insert_self ..
  · exact Finset.mem_insert_of_mem (Finset.mem_singleton_self _)

theorem behaviour_book (i : Identity) (h : i ∈ plugins) : book.behaviour i = behave i := by
  rcases Finset.mem_insert.1 h with rfl | second
  · rfl
  · obtain rfl := Finset.mem_singleton.1 second
    rfl

end Circling

theorem circling_attaching_ends :
    ∃ visits ended, Setup.Attaches Circling.behave Circling.setup visits ended ∧
      visits.length ≤ 2 ∧ (visits.map Prod.fst).Nodup ∧
      Circling.setup.attachPending Circling.book = ended ∧
      ended.2.config.registry.attachers =
        [⟨Circling.ping, [.null, .null], true⟩, ⟨Circling.pong, [.null, .null], true⟩] := by
  have registered : ∀ i ∈ Circling.setup.config.registry.identities, i ∈ Circling.plugins := by
    decide
  obtain ⟨visits, ended, attaches, bound, distinct, -, listed⟩ :=
    attaching_ends registered fun i _ j => Circling.plugins_closed i j
  have pending := listed Circling.book Circling.behaviour_book
  have twice : Circling.setup.attachPending Circling.book = (.ok (), _) :=
    (Setup.attachPending_of_ok rfl rfl).trans
      ((Setup.attachPending_of_ok rfl rfl).trans (Setup.attachPending_of_none rfl))
  refine ⟨visits, ended, attaches, bound, distinct, pending, ?_⟩
  rw [← pending, twice]
  rfl

end DocPipeline
