import DocPipeline.Namespace

/-!
# Shared namespaces

A handle points to a namespace kept in a heap.  Copies of a handle see the same
namespace; a fork makes a new one with the contents of that moment.
-/

namespace DocPipeline

namespace Namespace

/-- Two handles are the same exactly if they point to the same namespace. -/
structure Handle where
  address : Nat
  deriving DecidableEq, Repr

structure Heap where
  cells : List Namespace := []
  deriving DecidableEq

namespace Heap

instance : Inhabited Heap := ⟨{}⟩

def read (heap : Heap) (h : Handle) : Namespace := (heap.cells[h.address]?).getD {}

def write (heap : Heap) (h : Handle) (ns : Namespace) : Heap :=
  ⟨heap.cells.set h.address ns⟩

def modify (heap : Heap) (h : Handle) (f : Namespace → Namespace) : Heap :=
  heap.write h (f (heap.read h))

def alloc (heap : Heap) (ns : Namespace) : Handle × Heap :=
  (⟨heap.cells.length⟩, ⟨heap.cells ++ [ns]⟩)

def fork (heap : Heap) (h : Handle) : Handle × Heap := heap.alloc (heap.read h)

def Valid (heap : Heap) (h : Handle) : Prop := h.address < heap.cells.length

theorem valid_write_iff {heap : Heap} {h k : Handle} {ns : Namespace} :
    (heap.write h ns).Valid k ↔ heap.Valid k := by
  simp [Valid, write]

/-- Making a namespace makes its handle valid and no other one. -/
theorem valid_alloc_iff {heap : Heap} {k : Handle} {ns : Namespace} :
    (heap.alloc ns).2.Valid k ↔ heap.Valid k ∨ k = (heap.alloc ns).1 := by
  cases k
  simp [Valid, alloc]
  omega

theorem Valid.ne_alloc {heap : Heap} {k : Handle} (valid : heap.Valid k) (ns : Namespace) :
    k ≠ (heap.alloc ns).1 := by
  rintro rfl
  exact Nat.lt_irrefl _ valid

theorem read_write {heap : Heap} {h : Handle} (valid : heap.Valid h) (ns : Namespace)
    (k : Handle) : (heap.write h ns).read k = if k = h then ns else heap.read k := by
  cases h with
  | mk a =>
      cases k with
      | mk b =>
          by_cases hb : b = a
          · subst hb
            have : b < heap.cells.length := valid
            simp [read, write, this]
          · simp [read, write, hb, List.getElem?_set_ne (Ne.symm hb)]

/-- Also for a handle to nothing, which reads as empty and takes nothing. -/
theorem write_read (heap : Heap) (h : Handle) : heap.write h (heap.read h) = heap := by
  have same : heap.cells.set h.address ((heap.cells[h.address]?).getD {}) = heap.cells := by
    apply List.ext_getElem?
    intro k
    by_cases own : h.address = k
    · subst own
      by_cases inside : h.address < heap.cells.length <;> simp [inside]
    · rw [List.getElem?_set_ne own]
  exact congrArg Heap.mk same

theorem write_write (heap : Heap) (h : Handle) (ns ns' : Namespace) :
    (heap.write h ns).write h ns' = heap.write h ns' := by
  simp [write]

theorem read_alloc {heap : Heap} {k : Handle} (valid : heap.Valid k) (ns : Namespace) :
    (heap.alloc ns).2.read k = heap.read k := by
  have : k.address < heap.cells.length := valid
  simp [read, alloc, List.getElem?_append_left this]

theorem read_alloc_self (heap : Heap) (ns : Namespace) :
    (heap.alloc ns).2.read (heap.alloc ns).1 = ns := by
  simp [read, alloc]

end Heap

end Namespace

end DocPipeline
