import DocPipeline.Proofs.DefaultPipeline
import DocPipeline.Proofs.Paragraphs
import Mathlib.Data.List.Infix

/-!
# Parsing what was written

A document that is parsed, written and parsed again gives the same tree but for
carriage returns: one more is lost wherever a line still ends in one and a line
feed is written behind it.
-/

namespace DocPipeline

namespace Paragraph

open Text (isBlankLine trimChars joinChars joinLines relined EndsInReturn trimHead trimLast)

/-! ## The texts of a document -/

def runsOf (document : List Char) : List (List (List Char)) := runs [] (Text.lines document)

/-- The lines that are not blank. -/
def contentLines (document : List Char) : List (List Char) :=
  (Text.lines document).filter fun line => !isBlankLine line

/-- Paragraphs with an empty line between them. -/
def written (texts : List (List Char)) : List Char := joinChars ['\n', '\n'] texts

theorem isRun_of_mem_runsOf (document : List Char) : ∀ run ∈ runsOf document, IsRun run := by
  intro run hrun
  refine isRun_of_mem_runs (List.forall_mem_nil _) ?_ hrun
  intro line hline
  exact Text.not_mem_of_mem_lines hline

theorem flatten_runsOf (document : List Char) :
    (runsOf document).flatten = contentLines document :=
  flatten_runs [] (Text.lines document)

theorem texts_untrimmed (document : List Char) :
    texts document false = (runsOf document).map joinLines :=
  rfl

theorem texts_trimmed (document : List Char) :
    texts document true = (runsOf document).map fun run => trimChars (joinLines run) :=
  rfl

theorem toList_compile_parse (document : String) (trim : Bool) :
    (compile (parse document trim)).toList = written (texts document.toList trim) := by
  have plain : String.toList ∘ String.ofList = id := funext fun _ => String.toList_ofList
  rw [compile, String.toList_intercalate, contents_parse, List.map_map, plain, List.map_id,
    written, Text.joinChars_eq_intercalate]
  rfl

theorem parse_eq_iff {d e : String} {trim : Bool} :
    parse d trim = parse e trim ↔ texts d.toList trim = texts e.toList trim := by
  constructor
  · intro same
    have contents := congrArg Paragraph.contents same
    rw [contents_parse, contents_parse] at contents
    exact List.map_injective_iff.2 (fun _ _ => String.ofList_injective) contents
  · intro same
    rw [parse, parse, same]

/-! ## Without trimming -/

variable {rs ss : List (List (List Char))}

theorem map_joinLines_inj (hr : ∀ run ∈ rs, IsRun run) (hs : ∀ run ∈ ss, IsRun run) :
    rs.map joinLines = ss.map joinLines ↔ rs = ss := by
  have back {rs : List (List (List Char))} (h : ∀ run ∈ rs, IsRun run) :
      (rs.map joinLines).map (List.splitOn '\n') = rs := by
    rw [List.map_map]
    refine (List.map_congr_left fun run hrun => ?_).trans (List.map_id rs)
    exact Text.splitOn_joinLines (h run hrun).feedless (h run hrun).some
  constructor
  · intro same
    rw [← back hr, same, back hs]
  · exact congrArg _

theorem texts_written_untrimmed_iff (document : List Char) :
    texts (written (texts document false)) false = texts document false ↔
      ∀ line ∈ (contentLines document).dropLast, ¬ EndsInReturn line := by
  have run := isRun_of_mem_runsOf document
  have again : runsOf (written (texts document false)) = relinedRuns (runsOf document) :=
    runs_lines_joined run
  rw [texts_untrimmed, again, texts_untrimmed,
    map_joinLines_inj (isRun_of_mem_relinedRuns run) run, relinedRuns_eq_self_iff run,
    flatten_runsOf]

/-! ## With trimming -/

def trimRun (run : List (List Char)) : List (List Char) := trimLast (trimHead run)

theorem IsRun.trimRun {run : List (List Char)} (h : IsRun run) : IsRun (trimRun run) :=
  (h.pared (Text.pared_trimHead run)).pared (Text.pared_trimLast _)

theorem IsRun.full {run : List (List Char)} (h : IsRun run) :
    ∀ line ∈ run, isBlankLine line = false :=
  fun line hline => (h.filled line hline).full

theorem trimChars_joinLines {run : List (List Char)} (h : IsRun run) :
    trimChars (joinLines run) = joinLines (trimRun run) := by
  rw [Text.trimChars_eq, Text.dropWhile_joinLines h.full,
    Text.rdropWhile_joinLines (h.pared (Text.pared_trimHead run)).full, trimRun]

theorem relined_trimRun {run : List (List Char)} (h : IsRun run) :
    relined (trimRun run) = trimRun (relined run) := by
  rw [trimRun, Text.relined_trimLast, Text.relined_trimHead h.full, trimRun]

/-- What is trimmed stays so when it is split and joined again. -/
theorem trimChars_joinLines_relined {run : List (List Char)} (h : IsRun run) :
    trimChars (joinLines (relined (trimRun run))) = joinLines (relined (trimRun run)) := by
  rw [relined_trimRun h, ← trimChars_joinLines h.relined, Text.trimChars_trimChars]

theorem dropLast_trimRun_iff {run : List (List Char)} (h : IsRun run) :
    (∀ line ∈ (trimRun run).dropLast, ¬ EndsInReturn line) ↔
      ∀ line ∈ run.dropLast, ¬ EndsInReturn line := by
  rw [trimRun, Text.dropLast_trimLast]
  cases run with
  | nil => rfl
  | cons line more =>
      cases more with
      | nil => simp [trimHead]
      | cons next more =>
          rw [trimHead, List.modifyHead_cons, List.dropLast_cons_cons, List.dropLast_cons_cons,
            List.forall_mem_cons, List.forall_mem_cons,
            Text.endsInReturn_dropWhile (h.full line List.mem_cons_self)]

theorem texts_written_trimmed_iff (document : List Char) :
    texts (written (texts document true)) true = texts document true ↔
      (Text.lines document).IsChain (Before (¬ EndsInReturn ·)) := by
  have run := isRun_of_mem_runsOf document
  have trimmed : ∀ run ∈ (runsOf document).map trimRun, IsRun run :=
    List.forall_mem_map.2 fun r hr => (run r hr).trimRun
  have before : texts document true = ((runsOf document).map trimRun).map joinLines := by
    rw [texts_trimmed, List.map_map]
    exact List.map_congr_left fun r hr => trimChars_joinLines (run r hr)
  have again : runsOf (written (texts document true)) =
      (runsOf document).map fun run => relined (trimRun run) := by
    rw [before, runsOf, written, runs_lines_joined trimmed, relinedRuns_of_last, List.map_map]
    · rfl
    · exact List.forall_mem_map.2 fun _ _ _ => Text.not_endsInReturn_of_trimLast
  have after : texts (written (texts document true)) true =
      ((runsOf document).map fun run => relined (trimRun run)).map joinLines := by
    rw [texts_trimmed, again, List.map_map, List.map_map]
    exact List.map_congr_left fun r hr => trimChars_joinLines_relined (run r hr)
  rw [after, before, map_joinLines_inj _ trimmed, List.map_inj_left]
  · refine Iff.trans (forall₂_congr fun r hr => ?_)
      (runs_dropLast_iff (List.forall_mem_nil _))
    rw [Text.relined_eq_self_iff, dropLast_trimRun_iff (run r hr)]
  · exact List.forall_mem_map.2 fun r hr => (run r hr).trimRun.relined

/-! ## Documents without two returns before a line feed -/

theorem mem_dropLast_of_mem_filter {lines : List (List Char)} {keep : List Char → Bool}
    {line : List Char} (h : line ∈ (lines.filter keep).dropLast) : line ∈ lines.dropLast := by
  rcases List.eq_nil_or_concat' lines with rfl | ⟨before, last, rfl⟩
  · exact h
  · rw [List.dropLast_concat]
    rw [List.filter_append, List.filter_singleton] at h
    cases kept : keep last with
    | true =>
        rw [kept, cond_true, List.dropLast_concat] at h
        exact List.mem_of_mem_filter h
    | false =>
        rw [kept, cond_false, List.append_nil] at h
        exact List.mem_of_mem_filter (List.mem_of_mem_dropLast h)

theorem reparsed_of_no_returns {d : String} (h : ¬ ['\r', '\r', '\n'] <:+: d.toList) :
    parse (compile (parse d false)) false = parse d false := by
  rw [parse_eq_iff, toList_compile_parse, texts_written_untrimmed_iff]
  intro line hline ends
  exact h (Text.returns_infix (mem_dropLast_of_mem_filter hline) ends)

end Paragraph

open Paragraph (parse compile contentLines)

open CommandLine (Arguments basis assemble process reflow reflowed)

/--
A document parses to the same tree once its paragraphs have been written, exactly
if no line that a line feed is then put behind ends in a return still.  Untrimmed
these are all lines of paragraphs but the very last one; trimming takes the
returns off at the end of each paragraph, too.
-/
theorem reparses_iff (d : String) :
    (parse (compile (parse d false)) false = parse d false ↔
      ∀ line ∈ (contentLines d.toList).dropLast, ¬ Text.EndsInReturn line) ∧
    (parse (compile (parse d true)) true = parse d true ↔
      (Text.lines d.toList).IsChain fun line next =>
        Text.isBlankLine line = false → Text.isBlankLine next = false →
          ¬ Text.EndsInReturn line) ∧
    (¬ ['\r', '\r', '\n'] <:+: d.toList →
      ∀ a : Arguments, a.preset = none → a.plugins = [] → ∃ what s,
        basis Catalog.builtin a = .done (.ok what) ∧
        assemble Catalog.builtin a what = .ok s ∧
        ∀ isSync file, file.text = d → ∃ out,
          process Builtin.book isSync s file = .ok out ∧
          process Builtin.book isSync s out = .ok out ∧
          ∀ isSync again, again.text = out.text →
            (process Builtin.book isSync s again).map File.text = .ok out.text) := by
  refine ⟨?_, ?_, ?_⟩
  · rw [Paragraph.parse_eq_iff, Paragraph.toList_compile_parse,
      Paragraph.texts_written_untrimmed_iff]
  · rw [Paragraph.parse_eq_iff, Paragraph.toList_compile_parse,
      Paragraph.texts_written_trimmed_iff]
    rfl
  · intro few a preset plugins
    refine ⟨CommandLine.defaultPlugins, CommandLine.assembled,
      CommandLine.basis_of_no_preset _ preset, CommandLine.assemble_of_no_plugin _ plugins, ?_⟩
    rintro isSync file rfl
    have settled : reflow (reflow file.text) = reflow file.text :=
      congrArg compile (Paragraph.reparsed_of_no_returns few)
    refine ⟨reflowed file, CommandLine.process_assembled isSync file, ?_, ?_⟩
    · rw [CommandLine.process_assembled, CommandLine.reflowed_reflowed settled]
    · intro isSync again same
      rw [CommandLine.process_assembled, Except.map, CommandLine.text_reflowed, same,
        CommandLine.text_reflowed, settled]

namespace Returning

/-- Of the returns after `one`, the line feed takes only its own. -/
def document : String := "one\r\r\n\ntwo\r"

def single : String := "\r one\r\n\r\ntwo\r"

end Returning

/-- Untrimmed, the line feeds written behind `one` take the other return as well. -/
theorem returning_document_reparses :
    parse (compile (parse Returning.document false)) false ≠ parse Returning.document false ∧
    parse (compile (parse Returning.document true)) true = parse Returning.document true ∧
    ∃ what s out, basis Catalog.builtin {} = .done (.ok what) ∧
      assemble Catalog.builtin {} what = .ok s ∧
      process Builtin.book true s (.ofText Returning.single) = .ok out ∧
      process Builtin.book true s out = .ok out ∧
      (process Builtin.book false s (.ofText out.text)).map File.text = .ok out.text := by
  obtain ⟨untrimmed, trimmed, -⟩ := reparses_iff Returning.document
  obtain ⟨-, -, settled⟩ := reparses_iff Returning.single
  obtain ⟨what, s, based, assembled, settled⟩ := settled (by decide) {} rfl rfl
  obtain ⟨out, processed, again, others⟩ := settled true (.ofText Returning.single) rfl
  exact ⟨mt untrimmed.1 (by decide), trimmed.2 (by decide), what, s, out, based, assembled,
    processed, again, others false (.ofText out.text) rfl⟩

end DocPipeline
