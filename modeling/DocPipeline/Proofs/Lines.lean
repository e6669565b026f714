import DocPipeline.Text.Blank
import DocPipeline.Text.Lines
import Mathlib.Data.List.DropRight
import Mathlib.Data.List.Basic

/-!
# Lines that are joined and split again

Splitting takes one carriage return off each line that a line feed ends.  So
lines that were joined come back without the return at their end, but for the
last one, which no line feed follows.
-/

namespace DocPipeline.Text

def EndsInReturn (line : List Char) : Prop := line.getLast? = some '\r'

instance (line : List Char) : Decidable (EndsInReturn line) :=
  inferInstanceAs (Decidable (_ = _))

def withoutReturn (line : List Char) : List Char :=
  if EndsInReturn line then line.dropLast else line

theorem withoutReturn_of_not {line : List Char} (h : ¬ EndsInReturn line) :
    withoutReturn line = line :=
  if_neg h

theorem withoutReturn_eq_self_iff {line : List Char} :
    withoutReturn line = line ↔ ¬ EndsInReturn line := by
  constructor
  · intro same ends
    have shorter := congrArg List.length same
    rw [withoutReturn, if_pos ends, List.length_dropLast] at shorter
    have : line ≠ [] := by
      rintro rfl
      cases ends
    have := List.length_pos_iff.2 this
    omega
  · exact withoutReturn_of_not

theorem withoutReturn_append (before : List Char) {line : List Char} (h : line ≠ []) :
    withoutReturn (before ++ line) = before ++ withoutReturn line := by
  have ends : EndsInReturn (before ++ line) ↔ EndsInReturn line := by
    simp only [EndsInReturn, List.getLast?_append_of_ne_nil _ h]
  by_cases own : EndsInReturn line
  · rw [withoutReturn, if_pos (ends.2 own), withoutReturn, if_pos own,
      List.dropLast_append_of_ne_nil h]
  · rw [withoutReturn_of_not own, withoutReturn_of_not (mt ends.1 own)]

theorem isPrefix_withoutReturn (line : List Char) : withoutReturn line <+: line := by
  unfold withoutReturn
  split
  · exact List.dropLast_prefix line
  · exact List.prefix_rfl

/-! ## Splitting -/

/-- Induction along the lines of a text. -/
theorem feedInduction {motive : List Char → Prop}
    (last : ∀ line, '\n' ∉ line → motive line)
    (feed : ∀ line rest, '\n' ∉ line → motive rest → motive (line ++ '\n' :: rest))
    (cs : List Char) : motive cs := by
  induction size : cs.length using Nat.strong_induction_on generalizing cs with
  | _ n ih =>
      by_cases more : '\n' ∈ cs
      · obtain ⟨line, rest, rfl, feedless⟩ := List.eq_append_cons_of_mem more
        have shorter : rest.length < n := by
          rw [← size, List.length_append, List.length_cons]
          omega
        exact feed line rest feedless (ih rest.length shorter rest rfl)
      · exact last cs more

theorem lines_cons {c : Char} {rest : List Char} (feed : c ≠ '\n')
    (ended : c = '\r' → rest.head? ≠ some '\n') :
    lines (c :: rest) = (c :: (lines rest).headD []) :: (lines rest).tail := by
  rw [lines]
  · cases lines rest <;> rfl
  · exact feed
  · rintro more own rfl
    exact ended own rfl

/-- A line feed ends a line together with the return before it. -/
theorem lines_append_feed {line : List Char} (h : '\n' ∉ line) (rest : List Char) :
    lines (line ++ '\n' :: rest) = withoutReturn line :: lines rest := by
  induction line with
  | nil => rfl
  | cons c line ih =>
      have first := List.ne_of_not_mem_cons h
      have later := List.not_mem_of_not_mem_cons h
      cases line with
      | nil =>
          by_cases isReturn : c = '\r'
          · subst isReturn
            rfl
          · have kept : ¬ EndsInReturn [c] := by simpa [EndsInReturn] using isReturn
            rw [withoutReturn_of_not kept, List.singleton_append,
              lines_cons (Ne.symm first) fun own => absurd own isReturn, lines]
            rfl
      | cons d line =>
          have second := List.ne_of_not_mem_cons later
          have inside : c = '\r' → ((d :: line) ++ '\n' :: rest).head? ≠ some '\n' := by
            intro _
            simpa using Ne.symm second
          have front := withoutReturn_append [c] (List.cons_ne_nil d line)
          rw [List.cons_append, lines_cons (Ne.symm first) inside, ih later]
          exact congrArg (· :: lines rest) front.symm

theorem lines_of_not_mem {line : List Char} (h : '\n' ∉ line) (some : line ≠ []) :
    lines line = [line] := by
  induction line with
  | nil => exact absurd rfl some
  | cons c line ih =>
      have first := List.ne_of_not_mem_cons h
      have later := List.not_mem_of_not_mem_cons h
      rw [lines_cons (Ne.symm first)]
      · cases line with
        | nil => rfl
        | cons d line =>
            rw [ih later (List.cons_ne_nil d line)]
            rfl
      · intro _ next
        exact later (List.mem_of_mem_head? next)

theorem not_mem_of_mem_lines {cs line : List Char} (h : line ∈ lines cs) : '\n' ∉ line := by
  fun_induction lines cs generalizing line with
  | case1 => simp at h
  | case2 rest ih | case3 rest ih =>
      rcases List.mem_cons.1 h with rfl | later
      · exact List.not_mem_nil
      · exact ih later
  | case4 c rest feed _ none _ =>
      obtain rfl := List.mem_singleton.1 h
      simpa using Ne.symm feed
  | case5 c rest feed _ first others split ih =>
      rcases List.mem_cons.1 h with rfl | later
      · refine List.not_mem_cons_of_ne_of_not_mem (Ne.symm feed) (ih ?_)
        rw [split]
        exact List.mem_cons_self
      · exact ih (split ▸ List.mem_cons_of_mem _ later)

/-! ## Joining -/

theorem joinChars_eq_intercalate (separator : List Char) (parts : List (List Char)) :
    joinChars separator parts = separator.intercalate parts := by
  induction parts with
  | nil => rfl
  | cons part parts ih =>
      cases parts with
      | nil => simp [joinChars]
      | cons next parts =>
          rw [joinChars, ih, List.intercalate_cons_cons]
          exact List.cons_ne_nil next parts

def joinLines (lines : List (List Char)) : List Char := joinChars ['\n'] lines

theorem joinLines_cons_cons (line next : List Char) (more : List (List Char)) :
    joinLines (line :: next :: more) = line ++ '\n' :: joinLines (next :: more) := by
  simp [joinLines, joinChars]

theorem joinLines_append {before after : List (List Char)} (hb : before ≠ []) (ha : after ≠ []) :
    joinLines (before ++ after) = joinLines before ++ '\n' :: joinLines after := by
  induction before with
  | nil => exact absurd rfl hb
  | cons line before ih =>
      cases before with
      | nil =>
          obtain ⟨next, more, rfl⟩ := List.exists_cons_of_ne_nil ha
          rw [List.singleton_append, joinLines_cons_cons]
          rfl
      | cons next before =>
          rw [List.cons_append, List.cons_append, joinLines_cons_cons, joinLines_cons_cons,
            ← List.cons_append, ih (List.cons_ne_nil next before)]
          simp

theorem splitOn_joinLines {ls : List (List Char)} (feedless : ∀ line ∈ ls, '\n' ∉ line)
    (some : ls ≠ []) : (joinLines ls).splitOn '\n' = ls := by
  rw [joinLines, joinChars_eq_intercalate, List.splitOn_intercalate '\n' feedless some]

/-- The lines that joined ones are split into. -/
def relined : List (List Char) → List (List Char)
  | [] => []
  | [line] => [line]
  | line :: more => withoutReturn line :: relined more

theorem relined_cons (line : List Char) {more : List (List Char)} (h : more ≠ []) :
    relined (line :: more) = withoutReturn line :: relined more := by
  rw [relined]
  exact h

theorem relined_append (before : List (List Char)) {after : List (List Char)}
    (h : after ≠ []) :
    relined (before ++ after) = before.map withoutReturn ++ relined after := by
  induction before with
  | nil => rfl
  | cons line before ih =>
      rw [List.cons_append, relined_cons line (by simp [h]), ih, List.map_cons, List.cons_append]

theorem relined_eq_self_iff {ls : List (List Char)} :
    relined ls = ls ↔ ∀ line ∈ ls.dropLast, ¬ EndsInReturn line := by
  induction ls with
  | nil => simp [relined]
  | cons line ls ih =>
      cases ls with
      | nil => simp [relined]
      | cons next ls =>
          rw [relined_cons line (List.cons_ne_nil next ls), List.cons.injEq, ih,
            withoutReturn_eq_self_iff, List.dropLast_cons_of_ne_nil (List.cons_ne_nil next ls),
            List.forall_mem_cons]

/-- If no return ends the last line, all lines are treated alike. -/
theorem relined_of_last {ls : List (List Char)} (h : ∀ line ∈ ls.getLast?, ¬ EndsInReturn line) :
    relined ls = ls.map withoutReturn := by
  rcases List.eq_nil_or_concat' ls with rfl | ⟨before, last, rfl⟩
  · rfl
  · rw [relined_append before (List.cons_ne_nil last []), List.map_append, relined,
      List.map_singleton, withoutReturn_of_not]
    exact h last (by simp)

theorem lines_joinLines {ls : List (List Char)} (feedless : ∀ line ∈ ls, '\n' ∉ line)
    (full : ∀ line ∈ ls.getLast?, line ≠ []) : lines (joinLines ls) = relined ls := by
  induction ls with
  | nil => rfl
  | cons line ls ih =>
      obtain ⟨first, later⟩ := List.forall_mem_cons.1 feedless
      cases ls with
      | nil => exact lines_of_not_mem first (full line rfl)
      | cons next ls =>
          rw [joinLines_cons_cons, lines_append_feed first, ih later,
            relined_cons line (List.cons_ne_nil next ls)]
          simpa using full

/-! ## Returns before a line feed -/

theorem returns_of_withoutReturn {line : List Char} (ends : EndsInReturn (withoutReturn line)) :
    ∃ before, line = before ++ ['\r', '\r'] := by
  by_cases own : EndsInReturn line
  · obtain ⟨before, rfl⟩ := List.getLast?_eq_some_iff.1 own
    rw [withoutReturn, if_pos own, List.dropLast_concat] at ends
    obtain ⟨before, rfl⟩ := List.getLast?_eq_some_iff.1 ends
    exact ⟨before, by simp⟩
  · rw [withoutReturn_of_not own] at ends
    exact absurd ends own

/-- A line feed has taken one return off each line but the last, so another stood before it. -/
theorem returns_infix {cs line : List Char} (h : line ∈ (lines cs).dropLast)
    (ends : EndsInReturn line) : ['\r', '\r', '\n'] <:+: cs := by
  induction cs using feedInduction with
  | last cs feedless =>
      cases cs with
      | nil => simp [lines] at h
      | cons c cs => simp [lines_of_not_mem feedless] at h
  | feed first rest feedless ih =>
      rw [lines_append_feed feedless] at h
      cases others : lines rest with
      | nil => simp [others] at h
      | cons next more =>
          rw [others, List.dropLast_cons_cons] at h
          rcases List.mem_cons.1 h with rfl | later
          · obtain ⟨before, rfl⟩ := returns_of_withoutReturn ends
            exact ⟨before, rest, by simp⟩
          · have last : rest <:+ first ++ '\n' :: rest :=
              (List.suffix_cons '\n' rest).trans (List.suffix_append first _)
            exact (ih (others ▸ later)).trans last.isInfix

end DocPipeline.Text
