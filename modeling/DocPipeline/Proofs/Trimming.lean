import DocPipeline.Proofs.Lines
import Mathlib.Data.List.Forall2
import Mathlib.Data.List.ModifyLast

/-!
# Trimming lines that are joined

Lines that are not blank keep what trimming stops at.  So trimming a text that
is joined from such lines trims the start of the first and the end of the last.
-/

namespace DocPipeline.Text

theorem trimChars_eq (cs : List Char) :
    trimChars cs = (cs.dropWhile isBlank).rdropWhile isBlank :=
  rfl

theorem dropWhile_ne_nil {line : List Char} (full : isBlankLine line = false) :
    line.dropWhile isBlank ≠ [] := by
  intro empty
  rw [List.dropWhile_eq_nil_iff, ← List.all_eq_true] at empty
  exact Bool.false_ne_true (full.symm.trans empty)

theorem dropWhile_append_of_not_blank {line : List Char} (full : isBlankLine line = false)
    (rest : List Char) :
    (line ++ rest).dropWhile isBlank = line.dropWhile isBlank ++ rest := by
  rw [List.dropWhile_append, if_neg (by simpa using dropWhile_ne_nil full)]

theorem rdropWhile_append_of_not_blank (before : List Char) {line : List Char}
    (full : isBlankLine line = false) :
    (before ++ line).rdropWhile isBlank = before ++ line.rdropWhile isBlank := by
  have full : isBlankLine line.reverse = false := by
    rwa [isBlankLine, List.all_reverse]
  rw [List.rdropWhile, List.reverse_append, dropWhile_append_of_not_blank full,
    List.reverse_append, List.reverse_reverse, List.rdropWhile]

/-- What trimming the start leaves still begins with the character it stopped at. -/
theorem dropWhile_of_prefix {front cs : List Char} (h : front <+: cs.dropWhile isBlank) :
    front.dropWhile isBlank = front := by
  rw [List.dropWhile_eq_self_iff]
  intro inside
  rw [h.getElem inside]
  exact List.dropWhile_get_zero_not isBlank cs (inside.trans_le h.length_le)

theorem dropWhile_trimChars (cs : List Char) :
    (trimChars cs).dropWhile isBlank = trimChars cs :=
  dropWhile_of_prefix (List.rdropWhile_prefix isBlank (cs.dropWhile isBlank))

theorem trimChars_trimChars (cs : List Char) : trimChars (trimChars cs) = trimChars cs := by
  rw [trimChars_eq (trimChars cs), dropWhile_trimChars, trimChars_eq, List.rdropWhile_idempotent]

/-! ## Less of a line, but not so little that it is blank -/

structure Pared (line pared : List Char) : Prop where
  sublist : pared.Sublist line
  full : isBlankLine line = false → isBlankLine pared = false

theorem Pared.refl (line : List Char) : Pared line line := ⟨List.Sublist.refl line, id⟩

theorem pared_withoutReturn (line : List Char) : Pared line (withoutReturn line) := by
  refine ⟨(isPrefix_withoutReturn line).sublist, ?_⟩
  intro full
  unfold withoutReturn
  split
  · next ends =>
    obtain ⟨before, rfl⟩ := List.getLast?_eq_some_iff.1 ends
    have blank : isBlank '\r' = true := by decide
    rw [isBlankLine, List.all_append] at full
    rw [List.dropLast_concat, isBlankLine]
    simpa [blank] using full
  · exact full

theorem pared_dropWhile (line : List Char) : Pared line (line.dropWhile isBlank) := by
  refine ⟨List.dropWhile_sublist isBlank, ?_⟩
  intro full
  have split : line.takeWhile isBlank ++ line.dropWhile isBlank = line :=
    List.takeWhile_append_dropWhile
  rw [← split, isBlankLine, List.all_append, List.all_takeWhile, Bool.true_and] at full
  exact full

theorem pared_rdropWhile (line : List Char) : Pared line (line.rdropWhile isBlank) := by
  refine ⟨(List.rdropWhile_prefix isBlank line).sublist, ?_⟩
  intro full
  have reversed := (pared_dropWhile line.reverse).full
  simp only [isBlankLine, List.all_reverse] at reversed
  rw [isBlankLine, List.rdropWhile, List.all_reverse]
  exact reversed full

/-! ## Trimming line by line -/

def trimHead (ls : List (List Char)) : List (List Char) := ls.modifyHead (·.dropWhile isBlank)

def trimLast (ls : List (List Char)) : List (List Char) := ls.modifyLast (·.rdropWhile isBlank)

variable {ls : List (List Char)}

theorem trimLast_concat (before : List (List Char)) (last : List Char) :
    trimLast (before ++ [last]) = before ++ [last.rdropWhile isBlank] :=
  List.modifyLast_concat ..

theorem dropWhile_joinLines (full : ∀ line ∈ ls, isBlankLine line = false) :
    (joinLines ls).dropWhile isBlank = joinLines (trimHead ls) := by
  cases ls with
  | nil => rfl
  | cons line more =>
      cases more with
      | nil => rfl
      | cons next more =>
          rw [trimHead, List.modifyHead_cons, joinLines_cons_cons, joinLines_cons_cons,
            dropWhile_append_of_not_blank (full line List.mem_cons_self)]

theorem rdropWhile_joinLines (full : ∀ line ∈ ls, isBlankLine line = false) :
    (joinLines ls).rdropWhile isBlank = joinLines (trimLast ls) := by
  rcases List.eq_nil_or_concat' ls with rfl | ⟨before, last, rfl⟩
  · rfl
  · rw [trimLast_concat]
    cases before with
    | nil => rfl
    | cons line before =>
        have kept := full last (by simp)
        rw [joinLines_append (List.cons_ne_nil line before) (List.cons_ne_nil _ []),
          joinLines_append (List.cons_ne_nil line before) (List.cons_ne_nil _ []),
          List.append_cons _ _ (joinLines [last]), List.append_cons _ _ (joinLines [_])]
        exact rdropWhile_append_of_not_blank _ kept

theorem pared_trimHead (ls : List (List Char)) : List.Forall₂ Pared ls (trimHead ls) := by
  cases ls with
  | nil => exact .nil
  | cons line more =>
      exact .cons (pared_dropWhile line) (List.forall₂_same.2 fun line _ => .refl line)

theorem pared_trimLast (ls : List (List Char)) : List.Forall₂ Pared ls (trimLast ls) := by
  rcases List.eq_nil_or_concat' ls with rfl | ⟨before, last, rfl⟩
  · exact .nil
  · rw [trimLast_concat]
    exact List.rel_append (List.forall₂_same.2 fun line _ => .refl line)
      (.cons (pared_rdropWhile last) .nil)

theorem pared_relined (ls : List (List Char)) : List.Forall₂ Pared ls (relined ls) := by
  induction ls with
  | nil => exact .nil
  | cons line more ih =>
      cases more with
      | nil => exact .cons (.refl line) .nil
      | cons next more =>
          rw [relined_cons line (List.cons_ne_nil next more)]
          exact .cons (pared_withoutReturn line) ih

/-! ## Trimming and the return at the end of a line -/

theorem endsInReturn_dropWhile {line : List Char} (full : isBlankLine line = false) :
    EndsInReturn (line.dropWhile isBlank) ↔ EndsInReturn line := by
  have split : line.takeWhile isBlank ++ line.dropWhile isBlank = line :=
    List.takeWhile_append_dropWhile
  rw [EndsInReturn, EndsInReturn,
    ← List.getLast?_append_of_ne_nil _ (dropWhile_ne_nil full), split]

theorem withoutReturn_dropWhile {line : List Char} (full : isBlankLine line = false) :
    withoutReturn (line.dropWhile isBlank) = (withoutReturn line).dropWhile isBlank := by
  have split : line.takeWhile isBlank ++ line.dropWhile isBlank = line :=
    List.takeWhile_append_dropWhile
  have blank : ∀ c ∈ line.takeWhile isBlank, isBlank c = true := fun c hc =>
    List.mem_takeWhile_imp hc
  have behind := withoutReturn_append (line.takeWhile isBlank) (dropWhile_ne_nil full)
  rw [split] at behind
  rw [behind, List.dropWhile_append_of_pos blank,
    dropWhile_of_prefix (isPrefix_withoutReturn (line.dropWhile isBlank))]

theorem relined_trimHead (full : ∀ line ∈ ls, isBlankLine line = false) :
    relined (trimHead ls) = trimHead (relined ls) := by
  cases ls with
  | nil => rfl
  | cons line more =>
      cases more with
      | nil => rfl
      | cons next more =>
          have some := List.cons_ne_nil next more
          rw [trimHead, List.modifyHead_cons, relined_cons _ some, relined_cons _ some,
            withoutReturn_dropWhile (full line List.mem_cons_self)]
          rfl

theorem relined_trimLast (ls : List (List Char)) :
    relined (trimLast ls) = trimLast (relined ls) := by
  rcases List.eq_nil_or_concat' ls with rfl | ⟨before, last, rfl⟩
  · rfl
  · rw [trimLast_concat, relined_append before (List.cons_ne_nil _ []),
      relined_append before (List.cons_ne_nil _ [])]
    exact (trimLast_concat _ last).symm

theorem dropLast_trimLast (ls : List (List Char)) : (trimLast ls).dropLast = ls.dropLast := by
  rcases List.eq_nil_or_concat' ls with rfl | ⟨before, last, rfl⟩
  · rfl
  · rw [trimLast_concat, List.dropLast_concat, List.dropLast_concat]

/-- Where trimming has stopped, the line does not end in a return. -/
theorem not_endsInReturn_of_trimLast {line : List Char} (h : line ∈ (trimLast ls).getLast?) :
    ¬ EndsInReturn line := by
  rcases List.eq_nil_or_concat' ls with rfl | ⟨before, last, rfl⟩
  · cases h
  · rw [trimLast_concat, List.getLast?_concat] at h
    cases h
    intro ends
    have some : last.rdropWhile isBlank ≠ [] := by
      intro empty
      rw [EndsInReturn, empty] at ends
      cases ends
    have stop := List.rdropWhile_last_not isBlank last some
    rw [EndsInReturn, List.getLast?_eq_some_getLast some, Option.some.injEq] at ends
    rw [ends] at stop
    exact stop (by decide)

end DocPipeline.Text
