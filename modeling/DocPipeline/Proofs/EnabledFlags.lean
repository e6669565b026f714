import DocPipeline.Proofs.Lifetime

/-!
# What the enabled flags of a pipeline tell

An entry is invoked if it is enabled when its turn comes, once and never again.
Its flag can still change after that, through another attacher or a later use;
the flags of the sealed pipeline then no longer tell what happened.
-/

namespace DocPipeline

namespace Pipeline

/--
The flags tell the truth about the configuration that was sealed: whoever is
enabled was invoked exactly once, and whoever is not contributed nothing.
-/
def Truthful (p : Pipeline) (attached : List (Nat × String)) : Prop :=
  ∀ (i : Nat) (a : Attacher), p.registry.attachers[i]? = some a →
    (a.enabled = true → (attached.map Prod.fst).count i = 1) ∧
    (a.enabled = false → ∀ b ∈ p.transformers, b.index ≠ i)

end Pipeline

namespace Configuration

variable {turns : List Turn} {attached : List (Nat × String)} {c : Configuration}

theorem Tells.mem_attached (h : c.Tells turns attached) {i : Nat} {turn : Turn}
    (hturn : turns[i]? = some turn) :
    i ∈ attached.map Prod.fst ↔ turn.attacher.enabled = true := by
  rw [h.attached]
  constructor
  · intro hmem
    obtain ⟨e, he, rfl⟩ := List.mem_map.1 hmem
    obtain ⟨other, index, hother, hinvoked⟩ := Turn.mem_of_indices _ he
    obtain ⟨on, rfl⟩ := Turn.key_invocation? hinvoked
    obtain rfl : other = turn := by simpa [hother] using hturn
    exact on
  · intro on
    refine List.mem_map.2 ⟨(i, turn.plugin.name), ?_, rfl⟩
    refine List.mem_filterMap.2 ⟨(turn, i), List.mk_mem_zipIdx_iff_getElem?.2 hturn, ?_⟩
    simp [Turn.invocation?, on]

theorem Tells.count_attached (h : c.Tells turns attached) {i : Nat} {turn : Turn}
    (hturn : turns[i]? = some turn) :
    (attached.map Prod.fst).count i = if turn.attacher.enabled then 1 else 0 := by
  have increasing := List.pairwise_map.2 h.attached_increasing
  have distinct : (attached.map Prod.fst).Nodup := increasing.imp Nat.ne_of_lt
  rw [distinct.count]
  simp only [h.mem_attached hturn]

theorem Tells.contributes (h : c.Tells turns attached) {i : Nat} {turn : Turn}
    (hturn : turns[i]? = some turn) :
    (∃ b ∈ c.transformers, b.index = i) ↔ turn.transformer.isSome = true := by
  rw [h.transformers]
  constructor
  · rintro ⟨b, hb, rfl⟩
    obtain ⟨other, index, hother, hcontribution⟩ := Turn.mem_of_indices _ hb
    obtain ⟨rfl, -, htransformer⟩ := Turn.key_contribution? hcontribution
    obtain rfl : other = turn := by simpa [hother] using hturn
    rw [htransformer]
    rfl
  · intro some
    obtain ⟨t, ht⟩ := Option.isSome_iff_exists.1 some
    refine ⟨⟨i, turn.plugin.name, t⟩, ?_, rfl⟩
    refine List.mem_filterMap.2 ⟨(turn, i), List.mk_mem_zipIdx_iff_getElem?.2 hturn, ?_⟩
    simp [Turn.contribution?, ht]

end Configuration

/--
In a configuration that starts with its cursor at the front, each entry has one
turn.  The flags of the sealed pipeline tell the truth exactly if every entry
that ends enabled was enabled when its turn came, and every entry that
contributed a transformer ends enabled.
-/
theorem truthful_iff_unchanged {registry : Registry} {parser : Option Parser}
    {compiler : Option Compiler} {store : Namespace.Handle} {l : Life}
    {pipeline : Pipeline}
    (lived : Relation.ReflTransGen Life.Step
      { processor := ⟨.configuring { registry, parser, compiler }, store⟩ } l)
    (sealed : l.processor.state = .frozen pipeline) :
    l.turns.map Turn.plugin = pipeline.registry.plugins ∧
    (pipeline.Truthful l.attached ↔
      ∀ (i : Nat) (a : Attacher) (turn : Turn),
        pipeline.registry.attachers[i]? = some a → l.turns[i]? = some turn →
        (a.enabled = true → turn.attacher.enabled = true) ∧
        (turn.transformer.isSome = true → a.enabled = true)) := by
  have born : Life.Sound
      { processor := ⟨.configuring { registry, parser, compiler }, store⟩ } :=
    Configuration.tells_nil rfl rfl
  have tells := born.steps lived
  rw [Life.Sound, Processor.current, sealed] at tells
  have all : l.turns.map Turn.plugin = pipeline.registry.plugins := by
    refine tells.passed.eq_of_length ?_
    rw [List.length_map, ← tells.cursor, Registry.length_plugins]
  refine ⟨all, ?_, ?_⟩
  · intro truthful i a turn ha hturn
    obtain ⟨once, silent⟩ := truthful i a ha
    constructor
    · intro on
      have count := once on
      rw [tells.count_attached hturn] at count
      cases enabled : turn.attacher.enabled with
      | true => rfl
      | false => simp [enabled] at count
    · intro contributed
      obtain ⟨b, hb, hindex⟩ := (tells.contributes hturn).2 contributed
      cases enabled : a.enabled with
      | true => rfl
      | false => exact absurd hindex (silent enabled b hb)
  · intro unchanged i a ha
    have inside : i < l.turns.length := by
      have hlt := (List.getElem?_eq_some_iff.1 ha).1
      have hlen := congrArg List.length all
      rw [List.length_map, Registry.length_plugins] at hlen
      rw [hlen]
      exact hlt
    have hturn := List.getElem?_eq_getElem inside
    obtain ⟨enabled, kept⟩ := unchanged i a _ ha hturn
    constructor
    · intro on
      rw [tells.count_attached hturn, if_pos (enabled on)]
    · intro off b hb hindex
      have contributed := (tells.contributes hturn).1 ⟨b, hb, hindex⟩
      have on := kept contributed
      simp [off] at on

/-! ## A flag that changes too late -/

namespace Waking

/-- A plugin that begins disabled, and one that enables it in its own turn. -/
def sleeper : Plugin := ⟨⟨"own", "sleeper"⟩, "sleeper"⟩

def waker : Plugin := ⟨⟨"own", "waker"⟩, "waker"⟩

def book : Book where
  entries := [(waker.identity, fun _ _ _ => do
    let _ ← Attach.use (.switch sleeper true)
    return .ok none)]

def begun (first second : Attacher) : Life where
  processor := {
    state := .configuring { registry := (Registry.register {} first).register second }
    store := ⟨0⟩ }

def sealed (first second : Attacher) : Life where
  processor := ((begun first second).processor.freeze book {}).2.1
  turns := (begun first second).processor.turns book {}
  attached := (World.since {} ((begun first second).processor.freeze book {}).2.2).attached

theorem sealed_of_begun (first second : Attacher) :
    Relation.ReflTransGen Life.Step (begun first second) (sealed first second) :=
  .single (.freeze _ book {})

end Waking

/-- The turn of the sleeper is over when the waker enables it. -/
theorem late_waking_untruthful :
    let l := Waking.sealed ⟨Waking.sleeper, [], false⟩ ⟨Waking.waker, [], true⟩
    l.processor.isFrozen = true ∧ ∀ pipeline, l.processor.state = .frozen pipeline →
      ¬ pipeline.Truthful l.attached := by
  intro l
  let begun := (Waking.begun ⟨Waking.sleeper, [], false⟩ ⟨Waking.waker, [], true⟩).processor
  have attached : Setup.attachPending Waking.book ⟨begun.configuration, {}, []⟩ = _ :=
    (Setup.attachPending_of_ok rfl rfl).trans
      ((Setup.attachPending_of_ok rfl rfl).trans (Setup.attachPending_of_none rfl))
  have frozen : begun.freeze Waking.book {} = _ := Processor.freeze_sealed rfl attached
  refine ⟨congrArg (·.2.1.isFrozen) frozen, ?_⟩
  intro pipeline hstate truthful
  have registry : pipeline.registry = l.processor.registry := by
    rw [Processor.registry, hstate]
  have entry : pipeline.registry.attachers[0]? = some ⟨Waking.sleeper, [], true⟩ := by
    rw [registry]
    exact congrArg (·.2.1.registry.attachers[0]?) frozen
  have once := (truthful 0 _ entry).1 rfl
  have invoked : l.attached = [(1, "waker")] :=
    congrArg (fun made : _ × _ × World => (World.since {} made.2.2).attached) frozen
  rw [invoked] at once
  exact absurd once (by decide)

theorem early_waking_truthful :
    let l := Waking.sealed ⟨Waking.waker, [], true⟩ ⟨Waking.sleeper, [], false⟩
    ∃ pipeline, l.processor.state = .frozen pipeline ∧ pipeline.Truthful l.attached := by
  intro l
  let begun := (Waking.begun ⟨Waking.waker, [], true⟩ ⟨Waking.sleeper, [], false⟩).processor
  have attached : Setup.attachPending Waking.book ⟨begun.configuration, {}, []⟩ = _ :=
    (Setup.attachPending_of_ok rfl rfl).trans
      ((Setup.attachPending_of_ok rfl rfl).trans (Setup.attachPending_of_none rfl))
  have given : Setup.turns Waking.book ⟨begun.configuration, {}, []⟩ = _ :=
    (Setup.turns_of_ok rfl rfl).trans (congrArg _
      ((Setup.turns_of_ok rfl rfl).trans (congrArg _ (Setup.turns_of_none rfl))))
  have sealed : begun.freeze Waking.book {} = _ := Processor.freeze_sealed rfl attached
  have frozen : l.processor.isFrozen = true := congrArg (·.2.1.isFrozen) sealed
  have turns : l.turns.map (fun turn => (turn.attacher.enabled, turn.transformer.isSome)) =
      [(true, false), (true, false)] :=
    congrArg (·.map fun turn => (turn.attacher.enabled, turn.transformer.isSome)) given
  cases hstate : l.processor.state with
  | configuring c => simp [Processor.isFrozen, hstate] at frozen
  | frozen pipeline =>
      have exact_condition := truthful_iff_unchanged (Waking.sealed_of_begun _ _) hstate
      refine ⟨pipeline, rfl, exact_condition.2.2 ?_⟩
      intro i a turn ha hturn
      have listed := List.mem_map_of_mem
        (f := fun turn : Turn => (turn.attacher.enabled, turn.transformer.isSome))
        (List.mem_of_getElem? hturn)
      rw [turns] at listed
      have shape : turn.attacher.enabled = true ∧ turn.transformer.isSome = false := by
        simpa using listed
      simp [shape]

end DocPipeline
