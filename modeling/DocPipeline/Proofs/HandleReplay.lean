import DocPipeline.Proofs.Writes
import Mathlib.Data.List.Induction
import Mathlib.Logic.Function.Basic
import Mathlib.Logic.Relation

/-!
# What is seen through handles

Handles descend from one by copying and forking, and writes may come through any
of them.  A class of handles is what copying alone connects.  The handles of one
class see the same contents: those at the fork that began the class, with the
writes made since through its handles, and with nothing else.
-/

namespace DocPipeline.Namespace

/-- A heap and the handles to it that have been made, which are numbered from zero on. -/
structure Sharing where
  heap : Heap
  handles : List Handle

namespace Sharing

/-- Something done through a handle. -/
inductive Op where
  | write (handle : Nat) (change : Write)
  | copy (handle : Nat)
  | fork (handle : Nat)

/-- A new namespace with these contents, and the first handle to it. -/
def start (heap : Heap) (ns : Namespace) : Sharing :=
  let (h, heap) := heap.alloc ns
  ⟨heap, [h]⟩

/-- Through a handle that there is not, nothing is done. -/
def act (s : Sharing) (op : Op) : Sharing :=
  match op with
  | .write i change =>
      match s.handles[i]? with
      | some h => { s with heap := s.heap.modify h change.apply }
      | none => s
  | .copy i =>
      match s.handles[i]? with
      | some h => { s with handles := s.handles ++ [h] }
      | none => s
  | .fork i =>
      match s.handles[i]? with
      | some h =>
          let (k, heap) := s.heap.fork h
          ⟨heap, s.handles ++ [k]⟩
      | none => s

def run (s : Sharing) (ops : List Op) : Sharing := ops.foldl act s

/-- Writing is what the world does for a transformer that works on the namespace. -/
theorem heap_act_write {s : Sharing} {w : World} {i : Nat} {h : Handle} (same : s.heap = w.heap)
    (found : s.handles[i]? = some h) {op : Work.Op} {change : Write}
    (asked : op.write? = some change) :
    (s.act (.write i change)).heap = (w.work h op).2.heap := by
  rw [act, found, same]
  cases op <;> cases asked <;> rfl

/-- Forking is what the world does for a file that is processed. -/
theorem act_fork {s : Sharing} {w : World} {i : Nat} {h : Handle} (same : s.heap = w.heap)
    (found : s.handles[i]? = some h) :
    s.act (.fork i) = ⟨(w.fork h).2.heap, s.handles ++ [(w.fork h).1]⟩ := by
  rw [act, found, same]
  rfl

def seen? (s : Sharing) (i : Nat) : Option Namespace := s.handles[i]?.map s.heap.read

/-- There are both handles, and they point to the same namespace. -/
def Same (s : Sharing) (i j : Nat) : Prop :=
  ∃ h, s.handles[i]? = some h ∧ s.handles[j]? = some h

/-! ## Classes -/

/--
The class of the handle that an operation makes, named by the first handle in it.
A copy is of the class of its original, and a fork is the first of a new class.
-/
def Op.made? (op : Op) (cs : List Nat) : Option Nat :=
  match op with
  | .write .. => none
  | .copy i => cs[i]?
  | .fork i => cs[i]?.map fun _ => cs.length

def Op.classes (op : Op) (cs : List Nat) : List Nat := cs ++ (op.made? cs).toList

def classesFrom (cs : List Nat) (ops : List Op) : List Nat :=
  ops.foldl (fun cs op => op.classes cs) cs

/-- The classes of all handles made in a history that starts with one handle. -/
def classes (history : List Op) : List Nat := classesFrom [0] history

/-- The second handle was made by copying the first. -/
def Copied (history : List Op) (i j : Nat) : Prop :=
  ∃ before after, history = before ++ .copy i :: after ∧ i < (classes before).length ∧
    j = (classes before).length

/-- The second class was begun after that history by forking a handle of the first. -/
def Forked (history after : List Op) (c d : Nat) : Prop :=
  ∃ before i rest, after = before ++ .fork i :: rest ∧
    (classes (history ++ before))[i]? = some c ∧ d = (classes (history ++ before)).length

/-- Also by way of other classes, or it is that class itself. -/
def Heir (history after : List Op) : Nat → Nat → Prop :=
  Relation.ReflTransGen (Forked history after)

def Op.writes (op : Op) (cs : List Nat) (c : Nat) : List Write :=
  match op with
  | .write i change => if cs[i]? = some c then [change] else []
  | _ => []

/-- The writes through handles of a class, in order; `cs` are the classes at the beginning. -/
def writesThrough (c : Nat) : List Nat → List Op → List Write
  | _, [] => []
  | cs, op :: ops => op.writes cs c ++ writesThrough c (op.classes cs) ops

variable {s : Sharing} {cs : List Nat} {ops history before after : List Op} {op : Op}
  {c d i j : Nat} {store : Nat → Handle}

theorem classes_append (before after : List Op) :
    classes (before ++ after) = classesFrom (classes before) after :=
  List.foldl_append

theorem classes_concat (before : List Op) (op : Op) :
    classes (before ++ [op]) = op.classes (classes before) :=
  classes_append before [op]

theorem run_append (s : Sharing) (before after : List Op) :
    s.run (before ++ after) = (s.run before).run after :=
  List.foldl_append

theorem run_concat (s : Sharing) (before : List Op) (op : Op) :
    s.run (before ++ [op]) = (s.run before).act op :=
  run_append s before [op]

/-- A handle stays in its class. -/
theorem getElem?_classesFrom (found : cs[i]? = some c) (ops : List Op) :
    (classesFrom cs ops)[i]? = some c := by
  induction ops generalizing cs with
  | nil => exact found
  | cons op ops ih =>
      obtain ⟨inside, -⟩ := List.getElem?_eq_some_iff.1 found
      have kept : (op.classes cs)[i]? = some c := by
        rw [Op.classes, List.getElem?_append_left inside, found]
      exact ih kept

/-- A handle is an old one or the one that the operation makes. -/
theorem getElem?_classes_iff :
    (op.classes cs)[j]? = some c ↔ cs[j]? = some c ∨ j = cs.length ∧ op.made? cs = some c := by
  rw [Op.classes, List.getElem?_append]
  split
  · next inside =>
    have : j ≠ cs.length := by omega
    simp [this]
  · next outside =>
    have none : cs[j]? = none := List.getElem?_eq_none (by omega)
    have last : j - cs.length = 0 ↔ j = cs.length := by omega
    cases op.made? cs with
    | none => simp [none]
    | some made => simp [none, List.getElem?_singleton, last]

/-- Each class is named by a handle that there is. -/
theorem Op.classes_named (named : ∀ c ∈ cs, c < cs.length) (op : Op) :
    ∀ c ∈ op.classes cs, c < (op.classes cs).length := by
  intro c hc
  rw [Op.classes, List.mem_append, Option.mem_toList] at hc
  rw [Op.classes, List.length_append]
  rcases hc with hc | made
  · exact Nat.lt_add_right _ (named c hc)
  · have room : (op.made? cs).toList.length = 1 := by rw [made]; rfl
    have : c ≤ cs.length := by
      cases op with
      | write i change => cases made
      | copy i => exact Nat.le_of_lt (named c (List.mem_of_getElem? made))
      | fork i =>
          obtain ⟨-, -, rfl⟩ := Option.map_eq_some_iff.1 made
          exact Nat.le_refl _
    omega

theorem lt_length_of_mem (hc : c ∈ classes history) : c < (classes history).length := by
  induction history using List.reverseRecOn generalizing c with
  | nil =>
      obtain rfl := List.mem_singleton.1 hc
      exact Nat.one_pos
  | append_singleton history op ih =>
      rw [classes_concat] at hc ⊢
      exact op.classes_named (fun _ => ih) c hc

theorem length_le_classesFrom (cs : List Nat) (ops : List Op) :
    cs.length ≤ (classesFrom cs ops).length := by
  induction ops generalizing cs with
  | nil => exact Nat.le_refl _
  | cons op ops ih =>
      have first : cs.length ≤ (op.classes cs).length := by simp [Op.classes]
      exact Nat.le_trans first (ih _)

/-! ### What copying connects -/

theorem Copied.append (h : Copied history i j) (after : List Op) :
    Copied (history ++ after) i j := by
  obtain ⟨before, rest, rfl, inside, rfl⟩ := h
  exact ⟨before, rest ++ after, by simp, inside, rfl⟩

/-- Copying connects a handle with the first one of its class. -/
theorem connected_first (found : (classes history)[j]? = some c) :
    Relation.EqvGen (Copied history) j c := by
  induction history using List.reverseRecOn generalizing j c with
  | nil =>
      obtain ⟨rfl, rfl⟩ : j = 0 ∧ c = 0 := by
        cases j <;> simp_all [classes, classesFrom]
      exact .refl 0
  | append_singleton history op ih =>
      have grown : Copied history ≤ Copied (history ++ [op]) := fun _ _ h => h.append [op]
      rw [classes_concat, getElem?_classes_iff] at found
      rcases found with old | ⟨rfl, made⟩
      · exact Relation.EqvGen.mono grown _ _ (ih old)
      · cases op with
        | write i change => cases made
        | copy i =>
            have inside := (List.getElem?_eq_some_iff.1 made).1
            have copied : Copied (history ++ [.copy i]) i (classes history).length :=
              ⟨history, [], rfl, inside, rfl⟩
            exact .trans _ _ _ (.symm _ _ (.rel _ _ copied))
              (Relation.EqvGen.mono grown _ _ (ih made))
        | fork i =>
            obtain ⟨-, -, rfl⟩ := Option.map_eq_some_iff.1 made
            exact .refl _

theorem Copied.same_class (h : Copied history i j) :
    (classes history)[i]? = (classes history)[j]? := by
  obtain ⟨before, after, rfl, inside, rfl⟩ := h
  have own : (classes before)[i]? = some (classes before)[i] := List.getElem?_eq_getElem inside
  have copy : ((Op.copy i).classes (classes before))[(classes before).length]? =
      some (classes before)[i] := getElem?_classes_iff.2 (.inr ⟨rfl, own⟩)
  have split : classes (before ++ .copy i :: after) =
      classesFrom ((Op.copy i).classes (classes before)) after := classes_append ..
  rw [split, getElem?_classesFrom copy,
    getElem?_classesFrom (getElem?_classes_iff.2 (.inl own))]

/-- A class is what copying connects. -/
theorem exists_class_iff_connected :
    (∃ c, (classes history)[i]? = some c ∧ (classes history)[j]? = some c) ↔
      i < (classes history).length ∧ j < (classes history).length ∧
        Relation.EqvGen (Copied history) i j := by
  constructor
  · rintro ⟨c, hi, hj⟩
    refine ⟨(List.getElem?_eq_some_iff.1 hi).1, (List.getElem?_eq_some_iff.1 hj).1, ?_⟩
    exact .trans _ _ _ (connected_first hi) (.symm _ _ (connected_first hj))
  · rintro ⟨hi, hj, connected⟩
    have same : (classes history)[i]? = (classes history)[j]? := by
      clear hi hj
      induction connected with
      | rel i j copied => exact copied.same_class
      | refl i => rfl
      | symm i j _ ih => exact ih.symm
      | trans i j k _ _ ih ih' => exact ih.trans ih'
    have own := List.getElem?_eq_getElem hi
    exact ⟨_, own, same ▸ own⟩

/-- A class is that of the first handle of all or begins with a fork. -/
theorem begins (found : (classes history)[j]? = some c) :
    c = 0 ∨ ∃ before i after, history = before ++ .fork i :: after ∧
      i < (classes before).length ∧ c = (classes before).length := by
  induction history using List.reverseRecOn generalizing j with
  | nil =>
      left
      cases j <;> simp_all [classes, classesFrom]
  | append_singleton history op ih =>
      have later {j : Nat} (old : (classes history)[j]? = some c) :
          c = 0 ∨ ∃ before i after, history ++ [op] = before ++ .fork i :: after ∧
            i < (classes before).length ∧ c = (classes before).length := by
        refine (ih old).imp_right ?_
        rintro ⟨before, i, after, rfl, inside, same⟩
        exact ⟨before, i, after ++ [op], by simp, inside, same⟩
      rw [classes_concat, getElem?_classes_iff] at found
      rcases found with old | ⟨-, made⟩
      · exact later old
      · cases op with
        | write i change => cases made
        | copy i => exact later made
        | fork i =>
            obtain ⟨d, own, rfl⟩ := Option.map_eq_some_iff.1 made
            exact .inr ⟨history, i, [], rfl, (List.getElem?_eq_some_iff.1 own).1, rfl⟩

/-! ## Stores -/

/-- Handles of one class, and only these, point to the store of the class. -/
structure Linked (s : Sharing) (cs : List Nat) (store : Nat → Handle) : Prop where
  handles : s.handles = cs.map store
  valid : ∀ c ∈ cs, s.heap.Valid (store c)
  apart : ∀ c ∈ cs, ∀ d ∈ cs, store c = store d → c = d
  named : ∀ c ∈ cs, c < cs.length

namespace Linked

theorem start (heap : Heap) (ns : Namespace) :
    Linked (start heap ns) [0] fun _ => (heap.alloc ns).1 where
  handles := rfl
  valid _ _ := Heap.valid_alloc_iff.2 (.inr rfl)
  apart := by simp
  named := by simp

variable (h : Linked s cs store)
include h

theorem getElem?_handles (i : Nat) : s.handles[i]? = cs[i]?.map store := by
  rw [h.handles, List.getElem?_map]

theorem seen?_eq (i : Nat) : s.seen? i = cs[i]?.map fun c => s.heap.read (store c) := by
  rw [seen?, h.getElem?_handles, Option.map_map]
  rfl

theorem same_iff : s.Same i j ↔ ∃ c, cs[i]? = some c ∧ cs[j]? = some c := by
  simp only [Same, h.getElem?_handles, Option.map_eq_some_iff]
  constructor
  · rintro ⟨k, ⟨c, hc, rfl⟩, d, hd, same⟩
    obtain rfl := h.apart d (List.mem_of_getElem? hd) c (List.mem_of_getElem? hc) same
    exact ⟨d, hc, hd⟩
  · rintro ⟨c, hi, hj⟩
    exact ⟨_, ⟨c, hi, rfl⟩, c, hj, rfl⟩

theorem write (i : Nat) (change : Write) :
    Linked (s.act (.write i change)) ((Op.write i change).classes cs) store ∧
      ∀ c ∈ cs, (s.act (.write i change)).heap.read (store c) =
        (s.heap.read (store c)).replay ((Op.write i change).writes cs c) := by
  have same : (Op.write i change).classes cs = cs := List.append_nil cs
  rw [same, act, h.getElem?_handles]
  cases found : cs[i]? with
  | none => exact ⟨h, fun c _ => by simp [Op.writes, found, replay]⟩
  | some d =>
      have hd := List.mem_of_getElem? found
      refine ⟨⟨h.handles, fun c hc => Heap.valid_write_iff.2 (h.valid c hc), h.apart, h.named⟩,
        fun c hc => ?_⟩
      · dsimp only [Option.map_some]
        rw [Heap.modify, Heap.read_write (h.valid d hd)]
        by_cases own : d = c
        · simp [own, Op.writes, found, replay]
        · have other : store c ≠ store d := fun same => own (h.apart c hc d hd same).symm
          simp [own, other, Op.writes, found, replay]

theorem copy (i : Nat) : Linked (s.act (.copy i)) ((Op.copy i).classes cs) store ∧
    (s.act (.copy i)).heap = s.heap := by
  rw [act, h.getElem?_handles, Op.classes, Op.made?]
  cases found : cs[i]? with
  | none =>
      rw [Option.toList_none, List.append_nil]
      exact ⟨h, rfl⟩
  | some d =>
      have mem (c : Nat) : c ∈ cs ++ [d] ↔ c ∈ cs := by
        rw [List.mem_append, List.mem_singleton, or_iff_left_of_imp]
        rintro rfl
        exact List.mem_of_getElem? found
      refine ⟨⟨?_, ?_, ?_, ?_⟩, rfl⟩
      · simp [h.handles]
      · simpa [mem] using h.valid
      · simpa [mem] using h.apart
      · simpa [Op.classes, Op.made?, found] using (Op.copy i).classes_named h.named

theorem fork (i : Nat) :
    ∃ store', Linked (s.act (.fork i)) ((Op.fork i).classes cs) store' ∧
      ∀ c ∈ cs, store' c = store c ∧
        (s.act (.fork i)).heap.read (store c) = s.heap.read (store c) := by
  rw [act, h.getElem?_handles, Op.classes, Op.made?]
  cases found : cs[i]? with
  | none =>
      refine ⟨store, ?_, fun c _ => ⟨rfl, rfl⟩⟩
      simpa using h
  | some d =>
      let k := (s.heap.fork (store d)).1
      let store' := Function.update store cs.length k
      have old (c : Nat) (hc : c ∈ cs) : store' c = store c :=
        Function.update_of_ne (Nat.ne_of_lt (h.named c hc)) ..
      have own : store' cs.length = k := Function.update_self ..
      have new (c : Nat) (hc : c ∈ cs) : store c ≠ k := (h.valid c hc).ne_alloc _
      have mem (c : Nat) : c ∈ cs ++ [cs.length] ↔ c ∈ cs ∨ c = cs.length := by simp
      have kept := List.map_congr_left old
      refine ⟨store', ⟨?_, ?_, ?_, ?_⟩, fun c hc => ⟨old c hc, ?_⟩⟩
      · simp [h.handles, kept, own, k]
      · intro c hc
        refine Heap.valid_alloc_iff.2 ?_
        rcases (mem c).1 hc with hc | rfl
        · exact .inl (old c hc ▸ h.valid c hc)
        · exact .inr own
      · intro c hc e he same
        rcases (mem c).1 hc with hc | rfl <;> rcases (mem e).1 he with he | rfl
        · exact h.apart c hc e he (by rwa [old c hc, old e he] at same)
        · exact absurd (by rwa [old c hc, own] at same) (new c hc)
        · exact absurd (by rwa [old e he, own, eq_comm] at same) (new e he)
        · rfl
      · simpa [Op.classes, Op.made?, found] using (Op.fork i).classes_named h.named
      · exact Heap.read_alloc (h.valid c hc) _

/-- A store keeps its place and takes the writes that come through its class. -/
theorem act (op : Op) :
    ∃ store', Linked (s.act op) (op.classes cs) store' ∧ ∀ c ∈ cs, store' c = store c ∧
      (s.act op).heap.read (store c) = (s.heap.read (store c)).replay (op.writes cs c) := by
  cases op with
  | write i change =>
      obtain ⟨linked, read⟩ := h.write i change
      exact ⟨store, linked, fun c hc => ⟨rfl, read c hc⟩⟩
  | copy i =>
      obtain ⟨linked, same⟩ := h.copy i
      exact ⟨store, linked, fun c _ => ⟨rfl, by rw [same]; rfl⟩⟩
  | fork i => exact h.fork i

theorem run (ops : List Op) :
    ∃ store', Linked (s.run ops) (classesFrom cs ops) store' ∧ ∀ c ∈ cs, store' c = store c ∧
      (s.run ops).heap.read (store c) =
        (s.heap.read (store c)).replay (writesThrough c cs ops) := by
  induction ops generalizing s cs store with
  | nil => exact ⟨store, h, fun c _ => ⟨rfl, rfl⟩⟩
  | cons op ops ih =>
      obtain ⟨mid, linked, first⟩ := h.act op
      obtain ⟨last, linked', rest⟩ := ih linked
      refine ⟨last, linked', fun c hc => ?_⟩
      have hc' : c ∈ op.classes cs := List.mem_append_left _ hc
      obtain ⟨place, read⟩ := first c hc
      obtain ⟨place', read'⟩ := rest c hc'
      rw [place] at place' read'
      refine ⟨place', ?_⟩
      rw [writesThrough, replay_append, ← read]
      exact read'

/-- What is seen later through the handles of a class is what one of them sees now, replayed. -/
theorem seen?_run {seen : Namespace} (own : cs[i]? = some c) (now : s.seen? i = some seen)
    (found : (classesFrom cs ops)[j]? = some c) :
    (s.run ops).seen? j = some (seen.replay (writesThrough c cs ops)) := by
  obtain ⟨store', linked, kept⟩ := h.run ops
  obtain ⟨place, read⟩ := kept c (List.mem_of_getElem? own)
  rw [h.seen?_eq, own, Option.map_some, Option.some.injEq] at now
  rw [linked.seen?_eq, found, Option.map_some, place, read, now]

theorem seen?_eq_some (own : cs[i]? = some c) : ∃ seen, s.seen? i = some seen :=
  ⟨_, by rw [h.seen?_eq, own, Option.map_some]⟩

/-- A handle that sees the same in two states with the same classes still does after one step. -/
theorem seen?_act_congr {s' : Sharing} {store' : Nat → Handle} (h' : Linked s' cs store')
    (own : cs[j]? = some c) (same : s.seen? j = s'.seen? j) (op : Op) :
    (s.act op).seen? j = (s'.act op).seen? j := by
  obtain ⟨seen, now⟩ := h.seen?_eq_some own
  have kept : (classesFrom cs [op])[j]? = some c := getElem?_classesFrom own [op]
  have after := h.seen?_run own now kept
  have after' := h'.seen?_run own (same ▸ now) kept
  exact after.trans after'.symm

/-- A handle is at hand, and the next one made gets the number of the next class. -/
theorem at_hand (inside : i < cs.length) :
    s.handles[i]? = some (store cs[i]) ∧ cs.length = s.handles.length := by
  rw [h.getElem?_handles, List.getElem?_eq_getElem inside, h.handles, List.length_map]
  exact ⟨rfl, rfl⟩

theorem seen?_copy (inside : i < cs.length) : (s.act (.copy i)).seen? cs.length = s.seen? i := by
  obtain ⟨found, length⟩ := h.at_hand inside
  simp [Sharing.act, seen?, found, length]

theorem seen?_fork (inside : i < cs.length) : (s.act (.fork i)).seen? cs.length = s.seen? i := by
  obtain ⟨found, length⟩ := h.at_hand inside
  simp [Sharing.act, seen?, found, length, Heap.fork, Heap.read_alloc_self]

end Linked

/-! ## The law -/

theorem exists_linked (heap : Heap) (ns : Namespace) (history : List Op) :
    ∃ store, Linked ((start heap ns).run history) (classes history) store := by
  obtain ⟨store, linked, -⟩ := (Linked.start heap ns).run history
  exact ⟨store, linked⟩

theorem seen?_of_first (heap : Heap) (ns : Namespace) (found : (classes history)[j]? = some 0) :
    ((start heap ns).run history).seen? j = some (ns.replay (writesThrough 0 [0] history)) := by
  have now : (start heap ns).seen? 0 = some ns := congrArg some (Heap.read_alloc_self ..)
  exact (Linked.start heap ns).seen?_run rfl now found

theorem seen?_of_fork (heap : Heap) (ns : Namespace) (inside : i < (classes before).length)
    (found : (classes (before ++ .fork i :: after))[j]? = some (classes before).length) :
    ∃ atFork, ((start heap ns).run before).seen? i = some atFork ∧
      ((start heap ns).run (before ++ .fork i :: after)).seen? j =
        some (atFork.replay (writesThrough (classes before).length
          (classes (before ++ [.fork i])) after)) := by
  obtain ⟨store, linked⟩ := exists_linked heap ns before
  obtain ⟨store', forked, -⟩ := linked.fork i
  have origin := List.getElem?_eq_getElem inside
  have own : ((Op.fork i).classes (classes before))[(classes before).length]? =
      some (classes before).length :=
    getElem?_classes_iff.2 (.inr ⟨rfl, by rw [Op.made?, origin, Option.map_some]⟩)
  have seen : ((start heap ns).run before).seen? i =
      some (((start heap ns).run before).heap.read (store (classes before)[i])) := by
    rw [linked.seen?_eq, origin, Option.map_some]
  have now := (linked.seen?_fork inside).trans seen
  rw [classes_append] at found
  refine ⟨_, seen, ?_⟩
  rw [run_append, classes_concat]
  exact forked.seen?_run own now found

/-! ### What a write leaves alone -/

theorem Forked.append (h : Forked history before c d) (after : List Op) :
    Forked history (before ++ after) c d := by
  obtain ⟨mid, i, rest, rfl, own, rfl⟩ := h
  exact ⟨mid, i, rest ++ after, by simp, own, rfl⟩

theorem Heir.append (h : Heir history before c d) (after : List Op) :
    Heir history (before ++ after) c d :=
  Relation.ReflTransGen.mono (fun _ _ forked => forked.append after) _ _ h

/-- Of the classes that there are already, none is forked later. -/
theorem heir_iff_eq (hd : d ∈ classes history) : Heir history after c d ↔ d = c := by
  constructor
  · intro heir
    rcases heir.cases_tail with same | ⟨e, -, before, i, rest, -, -, rfl⟩
    · exact same
    · have inside := lt_length_of_mem hd
      have grown := length_le_classesFrom (classes history) before
      rw [classes_append] at inside
      omega
  · rintro rfl
    exact .refl

/-- A write leaves no trace in a class that is not forked later from the one written to. -/
theorem seen?_of_other (heap : Heap) (ns : Namespace) (history after : List Op) (change : Write)
    (found : (classes (history ++ after))[j]? = some c)
    (other : ∀ w, (classes history)[i]? = some w → ¬ Heir history after w c) :
    ((start heap ns).run (history ++ .write i change :: after)).seen? j =
      ((start heap ns).run (history ++ after)).seen? j := by
  induction after using List.reverseRecOn generalizing j c with
  | nil =>
      rw [List.append_nil] at found ⊢
      obtain ⟨store, linked⟩ := exists_linked heap ns history
      obtain ⟨seen, now⟩ := linked.seen?_eq_some found
      have apart : (classes history)[i]? ≠ some c := fun own => other c own .refl
      have kept : (classesFrom (classes history) [.write i change])[j]? = some c :=
        getElem?_classesFrom found _
      have later := linked.seen?_run found now kept
      rw [run_append, later, now]
      simp [writesThrough, Op.writes, apart, replay]
  | append_singleton after op ih =>
      have same : classes (history ++ .write i change :: after) = classes (history ++ after) := by
        rw [classes_append, classes_append]
        exact congrArg (classesFrom · after) (List.append_nil _)
      obtain ⟨store, written⟩ := exists_linked heap ns (history ++ .write i change :: after)
      obtain ⟨store', unwritten⟩ := exists_linked heap ns (history ++ after)
      rw [same] at written
      have last (ops : List Op) : history ++ (ops ++ [op]) = (history ++ ops) ++ [op] := by simp
      have before {d : Nat} (own : Heir history after d c) :
          Heir history (after ++ [op]) d c := own.append [op]
      rw [← List.cons_append, last, last, run_concat, run_concat]
      rw [last, classes_concat, getElem?_classes_iff] at found
      rcases found with old | ⟨rfl, made⟩
      · have now := ih old fun w own heir => other w own (before heir)
        exact written.seen?_act_congr unwritten old now op
      · -- a new handle sees what the one sees that it is made from
        cases op with
        | write k change' => cases made
        | copy k =>
            have now := ih made fun w own heir => other w own (before heir)
            have inside := (List.getElem?_eq_some_iff.1 made).1
            exact (written.seen?_copy inside).trans (now.trans (unwritten.seen?_copy inside).symm)
        | fork k =>
            obtain ⟨d, origin, rfl⟩ := Option.map_eq_some_iff.1 made
            have forked : Forked history (after ++ [.fork k]) d
                (classes (history ++ after)).length := ⟨after, k, [], rfl, origin, rfl⟩
            have now := ih origin fun w own heir =>
              other w own ((heir.append [.fork k]).tail forked)
            have inside := (List.getElem?_eq_some_iff.1 origin).1
            exact (written.seen?_fork inside).trans (now.trans (unwritten.seen?_fork inside).symm)

/--
Whatever is written, copied and forked through the handles descending from the
first one to a namespace: a handle sees what that namespace was at first, or the
contents of its class at the fork that began it, with exactly the writes replayed
that were made since through handles of the class; two handles are the same
exactly if copying connects them, which is to be of one class; and a write
through one class never changes what is seen through another, be it there already
or begun later, unless the other was then forked from the first one.
-/
theorem contents_are_replayed (heap : Heap) (ns : Namespace) (history : List Op) :
    (∀ j c, (classes history)[j]? = some c →
      c = 0 ∧ ((start heap ns).run history).seen? j =
        some (ns.replay (writesThrough 0 [0] history)) ∨
      ∃ before i after atFork, history = before ++ .fork i :: after ∧
        c = (classes before).length ∧ ((start heap ns).run before).seen? i = some atFork ∧
        ((start heap ns).run history).seen? j =
          some (atFork.replay (writesThrough c (classes (before ++ [.fork i])) after))) ∧
    (∀ i j, (((start heap ns).run history).Same i j ↔
        ∃ c, (classes history)[i]? = some c ∧ (classes history)[j]? = some c) ∧
      (((start heap ns).run history).Same i j ↔ i < (classes history).length ∧
        j < (classes history).length ∧ Relation.EqvGen (Copied history) i j)) ∧
    (∀ i change after j c, (classes (history ++ after))[j]? = some c →
      (∀ w, (classes history)[i]? = some w → ¬ Heir history after w c) →
      ((start heap ns).run (history ++ .write i change :: after)).seen? j =
        ((start heap ns).run (history ++ after)).seen? j) ∧
    ∀ after w c, c ∈ classes history → (Heir history after w c ↔ c = w) := by
  obtain ⟨store, linked⟩ := exists_linked heap ns history
  refine ⟨fun j c found => ?_, fun i j => ⟨linked.same_iff, ?_⟩, fun i change after j c => ?_,
    fun after w c => heir_iff_eq⟩
  · rcases begins found with rfl | ⟨before, i, after, rfl, inside, rfl⟩
    · exact .inl ⟨rfl, seen?_of_first heap ns found⟩
    · obtain ⟨atFork, origin, seen⟩ := seen?_of_fork heap ns inside found
      exact .inr ⟨before, i, after, atFork, rfl, rfl, origin, seen⟩
  · rw [linked.same_iff, exists_class_iff_connected]
  · exact seen?_of_other heap ns history after change

namespace Branching

/-- The second and the third handle are of a class of their own. -/
def done : List Op := [
  .write 0 (.insert "shared" .null),
  .fork 0,
  .copy 1,
  .write 0 (.insert "own" (.bool true)),
  .write 2 (.merge "shared" (.bool false))]

def read (ns : Namespace) : Option Value × Option Value := (ns.get? "shared", ns.get? "own")

end Branching

theorem branches_are_replayed :
    (∃ before i after atFork, Branching.done = before ++ .fork i :: after ∧
      1 = (classes before).length ∧ ((start {} {}).run before).seen? i = some atFork ∧
      ((start {} {}).run Branching.done).seen? 2 =
        some (atFork.replay (writesThrough 1 (classes (before ++ [.fork i])) after))) ∧
    (((start {} {}).run Branching.done).seen? 0).map Branching.read =
      some (some .null, some (.bool true)) ∧
    (((start {} {}).run Branching.done).seen? 1).map Branching.read =
      some (some (.bool false), none) ∧
    ((start {} {}).run Branching.done).Same 1 2 ∧
    ¬ ((start {} {}).run Branching.done).Same 0 1 ∧
    ((start {} {}).run (Branching.done ++ .write 0 (.insert "late" .null) :: [.copy 2])).seen? 3 =
      ((start {} {}).run (Branching.done ++ [.copy 2])).seen? 3 := by
  obtain ⟨replayed, same, alone, heirs⟩ := contents_are_replayed {} {} Branching.done
  refine ⟨?_, rfl, rfl, (same 1 2).1.2 ⟨1, rfl, rfl⟩, ?_, ?_⟩
  · exact (replayed 2 1 rfl).resolve_left nofun
  · intro both
    obtain ⟨c, first, second⟩ := (same 0 1).1.1 both
    cases first
    cases second
  · refine alone 0 _ [.copy 2] 3 1 rfl fun w own heir => ?_
    cases own
    cases (heirs [.copy 2] 0 1 (by decide)).1 heir

end Sharing

end DocPipeline.Namespace
