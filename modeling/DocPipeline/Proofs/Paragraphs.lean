import DocPipeline.TextTree
import DocPipeline.Proofs.Trimming
import Mathlib.Data.List.Chain

/-!
# Paragraphs that are joined and split again

A paragraph is a run of lines that are not blank.  Paragraphs joined with an
empty line between them are the same as all their lines joined, with an empty
line put in between, and splitting finds the same runs again.
-/

namespace DocPipeline.Paragraph

open Text (isBlankLine joinChars joinLines relined withoutReturn EndsInReturn)

/-! ## Runs of lines -/

/-- A line that is not blank. -/
structure Filled (line : List Char) : Prop where
  full : isBlankLine line = false
  feedless : '\n' ∉ line

structure IsRun (run : List (List Char)) : Prop where
  some : run ≠ []
  filled : ∀ line ∈ run, Filled line

theorem Filled.pared {line pared : List Char} (h : Filled line)
    (less : Text.Pared line pared) : Filled pared :=
  ⟨less.full h.full, fun feed => h.feedless (less.sublist.subset feed)⟩

theorem IsRun.pared {run pared : List (List Char)} (h : IsRun run)
    (less : List.Forall₂ Text.Pared run pared) : IsRun pared := by
  constructor
  · rintro rfl
    exact h.some (List.forall₂_nil_right_iff.1 less)
  · have filled := h.filled
    clear h
    induction less with
    | nil => simp
    | cons first _ ih =>
        obtain ⟨here, later⟩ := List.forall_mem_cons.1 filled
        exact List.forall_mem_cons.2 ⟨here.pared first, ih later⟩

theorem IsRun.relined {run : List (List Char)} (h : IsRun run) : IsRun (relined run) :=
  h.pared (Text.pared_relined run)

theorem IsRun.feedless {run : List (List Char)} (h : IsRun run) :
    ∀ line ∈ run, '\n' ∉ line :=
  fun line hline => (h.filled line hline).feedless

theorem isRun_of_mem_runs {current lines run : List (List Char)}
    (filled : ∀ line ∈ current, Filled line) (feedless : ∀ line ∈ lines, '\n' ∉ line)
    (h : run ∈ runs current lines) : IsRun run := by
  fun_induction runs current lines with
  | case1 current none => simp at h
  | case2 current some =>
      obtain rfl := List.mem_singleton.1 h
      exact ⟨by simpa using some, filled⟩
  | case3 current line lines blank none ih =>
      exact ih (List.forall_mem_nil _) (List.forall_mem_cons.1 feedless).2 h
  | case4 current line lines blank some ih =>
      rcases List.mem_cons.1 h with rfl | later
      · exact ⟨by simpa using some, filled⟩
      · exact ih (List.forall_mem_nil _) (List.forall_mem_cons.1 feedless).2 later
  | case5 current line lines full ih =>
      obtain ⟨here, later⟩ := List.forall_mem_cons.1 feedless
      refine ih (List.forall_mem_append.2 ⟨filled, ?_⟩) later h
      exact List.forall_mem_singleton.2 ⟨by simpa using full, here⟩

/-- The lines of the runs are the lines that are not blank, in the same order. -/
theorem flatten_runs (current lines : List (List Char)) :
    (runs current lines).flatten = current ++ lines.filter fun line => !isBlankLine line := by
  fun_induction runs current lines with
  | case1 current none => simpa using none
  | case2 current some => simp
  | case3 current line lines blank none ih => simp_all
  | case4 current line lines blank some ih => simp_all
  | case5 current line lines full ih => simp_all

section Neighbours

variable {P : List Char → Prop}

/-- What a line has to be if it is filled and the next one is, too. -/
def Before (P : List Char → Prop) (line next : List Char) : Prop :=
  isBlankLine line = false → isBlankLine next = false → P line

theorem isChain_before_iff {run : List (List Char)} (full : ∀ line ∈ run, isBlankLine line = false) :
    run.IsChain (Before P) ↔ ∀ line ∈ run.dropLast, P line := by
  induction run with
  | nil => simp
  | cons line run ih =>
      obtain ⟨here, later⟩ := List.forall_mem_cons.1 full
      cases run with
      | nil => simp
      | cons next run =>
          have next_full := later next List.mem_cons_self
          rw [List.isChain_cons_cons, ih later, List.dropLast_cons_of_ne_nil (List.cons_ne_nil _ _),
            List.forall_mem_cons, Before]
          simp [here, next_full]

theorem isChain_before_cons_blank {line : List Char} (blank : isBlankLine line = true)
    (lines : List (List Char)) :
    (line :: lines).IsChain (Before P) ↔ lines.IsChain (Before P) := by
  rw [List.isChain_cons]
  simp [Before, blank]

theorem isChain_before_append_blank {line : List Char} (blank : isBlankLine line = true)
    (lines : List (List Char)) :
    (lines ++ [line]).IsChain (Before P) ↔ lines.IsChain (Before P) := by
  rw [List.isChain_append]
  simp [Before, blank]

/-- Two filled lines follow each other just where they do so in a run. -/
theorem runs_dropLast_iff {current lines : List (List Char)}
    (full : ∀ line ∈ current, isBlankLine line = false) :
    (∀ run ∈ runs current lines, ∀ line ∈ run.dropLast, P line) ↔
      (current ++ lines).IsChain (Before P) := by
  fun_induction runs current lines with
  | case1 current none => simp_all
  | case2 current some =>
      rw [List.append_nil, isChain_before_iff full, List.forall_mem_singleton]
  | case3 current line lines blank none ih =>
      obtain rfl := List.isEmpty_iff.1 none
      rw [ih (List.forall_mem_nil _), List.nil_append, List.nil_append,
        isChain_before_cons_blank blank]
  | case4 current line lines blank some ih =>
      rw [List.forall_mem_cons, ih (List.forall_mem_nil _), List.isChain_split,
        isChain_before_append_blank blank, isChain_before_cons_blank blank, isChain_before_iff full]
      rfl
  | case5 current line lines filled ih =>
      rw [ih, List.append_assoc]
      · rfl
      · exact List.forall_mem_append.2 ⟨full, by simpa using filled⟩

end Neighbours

theorem runs_append {run : List (List Char)} (full : ∀ line ∈ run, isBlankLine line = false)
    (current rest : List (List Char)) :
    runs current (run ++ rest) = runs (current ++ run) rest := by
  induction run generalizing current with
  | nil => rw [List.nil_append, List.append_nil]
  | cons line run ih =>
      obtain ⟨here, later⟩ := List.forall_mem_cons.1 full
      rw [List.cons_append, runs, here, if_neg Bool.false_ne_true, ih later, List.append_assoc]
      rfl

/-! ## Joining paragraphs -/

variable {rs : List (List (List Char))}

theorem intercalate_ne_nil {first : List (List Char)} (some : first ≠ [])
    (rest : List (List (List Char))) : [[]].intercalate (first :: rest) ≠ [] := by
  cases rest with
  | nil => simpa using some
  | cons next rest => simp [some]

theorem joinChars_joinLines (h : ∀ run ∈ rs, IsRun run) :
    joinChars ['\n', '\n'] (rs.map joinLines) = joinLines ([[]].intercalate rs) := by
  induction rs with
  | nil => rfl
  | cons run rs ih =>
      obtain ⟨here, later⟩ := List.forall_mem_cons.1 h
      cases rs with
      | nil => simp [joinChars]
      | cons next rs =>
          have some := intercalate_ne_nil (later next List.mem_cons_self).some rs
          rw [List.map_cons, List.map_cons, joinChars, ← List.map_cons, ih later,
            List.intercalate_cons_cons, Text.joinLines_append (by simp) some,
            Text.joinLines_append here.some (List.cons_ne_nil _ _)]
          · simp [joinLines, joinChars]
          · simp

theorem runs_intercalate (h : ∀ run ∈ rs, IsRun run) : runs [] ([[]].intercalate rs) = rs := by
  induction rs with
  | nil => rfl
  | cons run rs ih =>
      obtain ⟨here, later⟩ := List.forall_mem_cons.1 h
      have full : ∀ line ∈ run, isBlankLine line = false := fun line hline =>
        (here.filled line hline).full
      have collected : run.isEmpty = false := by simpa using here.some
      cases rs with
      | nil =>
          have alone := runs_append full [] []
          rw [List.append_nil] at alone
          rw [List.intercalate_singleton, alone, List.nil_append, runs, collected]
          rfl
      | cons next rs =>
          rw [List.intercalate_cons_cons, List.append_assoc, runs_append full,
            List.singleton_append, runs, List.nil_append, collected, ih later]
          rfl

/-- The runs that joined paragraphs are split into. -/
def relinedRuns : List (List (List Char)) → List (List (List Char))
  | [] => []
  | [run] => [relined run]
  | run :: more => run.map withoutReturn :: relinedRuns more

theorem relinedRuns_cons (run : List (List Char)) {more : List (List (List Char))}
    (h : more ≠ []) : relinedRuns (run :: more) = run.map withoutReturn :: relinedRuns more := by
  rw [relinedRuns]
  exact h

theorem relinedRuns_ne_nil (h : rs ≠ []) : relinedRuns rs ≠ [] := by
  fun_cases relinedRuns rs <;> simp_all

theorem relined_intercalate (h : ∀ run ∈ rs, IsRun run) :
    relined ([[]].intercalate rs) = [[]].intercalate (relinedRuns rs) := by
  induction rs with
  | nil => rfl
  | cons run rs ih =>
      obtain ⟨here, later⟩ := List.forall_mem_cons.1 h
      cases rs with
      | nil => simp [relinedRuns]
      | cons next rs =>
          have some := intercalate_ne_nil (later next List.mem_cons_self).some rs
          have others := relinedRuns_ne_nil (List.cons_ne_nil next rs)
          obtain ⟨second, more, split⟩ := List.exists_cons_of_ne_nil others
          rw [relinedRuns_cons run (List.cons_ne_nil next rs), List.intercalate_cons_cons,
            List.append_assoc, Text.relined_append run (by simp), Text.relined_append [[]] some,
            ih later, split, List.intercalate_cons_cons, List.append_assoc]
          rfl

theorem isRun_of_mem_relinedRuns (h : ∀ run ∈ rs, IsRun run) :
    ∀ run ∈ relinedRuns rs, IsRun run := by
  induction rs with
  | nil => simp [relinedRuns]
  | cons run rs ih =>
      obtain ⟨here, later⟩ := List.forall_mem_cons.1 h
      cases rs with
      | nil => simpa [relinedRuns] using here.relined
      | cons next rs =>
          rw [relinedRuns_cons run (List.cons_ne_nil next rs)]
          refine List.forall_mem_cons.2 ⟨here.pared ?_, ih later⟩
          exact List.forall₂_map_right_iff.2 (List.forall₂_same.2 fun line _ =>
            Text.pared_withoutReturn line)

theorem feedless_intercalate (h : ∀ run ∈ rs, IsRun run) :
    ∀ line ∈ [[]].intercalate rs, '\n' ∉ line := by
  induction rs with
  | nil => simp
  | cons run rs ih =>
      obtain ⟨here, later⟩ := List.forall_mem_cons.1 h
      cases rs with
      | nil => simpa using here.feedless
      | cons next rs =>
          rw [List.intercalate_cons_cons]
          refine List.forall_mem_append.2 ⟨List.forall_mem_append.2 ⟨here.feedless, ?_⟩, ih later⟩
          exact List.forall_mem_singleton.2 List.not_mem_nil

theorem filled_last_intercalate (h : ∀ run ∈ rs, IsRun run) :
    ∀ line ∈ ([[]].intercalate rs).getLast?, Filled line := by
  induction rs with
  | nil => simp
  | cons run rs ih =>
      obtain ⟨here, later⟩ := List.forall_mem_cons.1 h
      cases rs with
      | nil =>
          intro line last
          rw [List.intercalate_singleton] at last
          exact here.filled line (List.mem_of_getLast? last)
      | cons next rs =>
          have some := intercalate_ne_nil (later next List.mem_cons_self).some rs
          rw [List.intercalate_cons_cons, List.getLast?_append_of_ne_nil _ some]
          exact ih later

theorem runs_lines_joined (h : ∀ run ∈ rs, IsRun run) :
    runs [] (Text.lines (joinChars ['\n', '\n'] (rs.map joinLines))) = relinedRuns rs := by
  have full : ∀ line ∈ ([[]].intercalate rs).getLast?, line ≠ [] := by
    rintro line last rfl
    exact Bool.noConfusion (filled_last_intercalate h [] last).full
  rw [joinChars_joinLines h, Text.lines_joinLines (feedless_intercalate h) full,
    relined_intercalate h, runs_intercalate (isRun_of_mem_relinedRuns h)]

theorem flatten_ne_nil {run : List (List Char)} (h : IsRun run) (more : List (List (List Char))) :
    (run :: more).flatten ≠ [] := by
  simp [h.some]

theorem map_withoutReturn_eq_self_iff {run : List (List Char)} :
    run.map withoutReturn = run ↔ ∀ line ∈ run, ¬ EndsInReturn line := by
  have each := List.map_eq_map_iff (l := run) (f := withoutReturn) (g := id)
  rw [List.map_id] at each
  simp only [each, id, Text.withoutReturn_eq_self_iff]

theorem relinedRuns_eq_self_iff (h : ∀ run ∈ rs, IsRun run) :
    relinedRuns rs = rs ↔ ∀ line ∈ rs.flatten.dropLast, ¬ EndsInReturn line := by
  induction rs with
  | nil => simp [relinedRuns]
  | cons run rs ih =>
      obtain ⟨here, later⟩ := List.forall_mem_cons.1 h
      cases rs with
      | nil => simp [relinedRuns, Text.relined_eq_self_iff]
      | cons next rs =>
          have some := flatten_ne_nil (later next List.mem_cons_self) rs
          rw [relinedRuns_cons run (List.cons_ne_nil next rs), List.cons.injEq, ih later,
            map_withoutReturn_eq_self_iff, ← List.forall_mem_append,
            ← List.dropLast_append_of_ne_nil some]
          rfl

/-- If no run ends in a return, all runs are treated alike. -/
theorem relinedRuns_of_last (h : ∀ run ∈ rs, ∀ line ∈ run.getLast?, ¬ EndsInReturn line) :
    relinedRuns rs = rs.map relined := by
  induction rs with
  | nil => rfl
  | cons run rs ih =>
      obtain ⟨here, later⟩ := List.forall_mem_cons.1 h
      cases rs with
      | nil => rfl
      | cons next rs =>
          rw [relinedRuns_cons run (List.cons_ne_nil next rs), ih later, ← Text.relined_of_last here]
          rfl

end DocPipeline.Paragraph
