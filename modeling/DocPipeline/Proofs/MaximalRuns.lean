import DocPipeline.Proofs.Reparsing

/-!
# Paragraphs as maximal runs of lines

The lines of a text are the pieces between its line feeds, and its paragraphs
are the longest stretches of lines that are not blank, no more and no fewer.
-/

namespace DocPipeline

namespace Text

/-- What stands before the line feeds, less one return each, and what follows the last one. -/
def linesAtFeeds (cs : List Char) : List (List Char) :=
  let pieces := cs.splitOn '\n'
  pieces.dropLast.map withoutReturn ++ pieces.getLast?.toList.filter fun piece => !piece.isEmpty

theorem splitOn_append_feed {line : List Char} (h : '\n' ∉ line) (rest : List Char) :
    (line ++ '\n' :: rest).splitOn '\n' = line :: rest.splitOn '\n' := by
  refine List.splitOnP_append_cons_of_forall_mem ?_ '\n' (by decide) rest
  intro c hc
  exact beq_false_of_ne (ne_of_mem_of_not_mem hc h)

theorem lines_eq_linesAtFeeds (cs : List Char) : lines cs = linesAtFeeds cs := by
  induction cs using feedInduction with
  | last line feedless =>
      rw [linesAtFeeds, List.splitOn_eq_singleton feedless]
      cases line with
      | nil => rfl
      | cons c line => exact lines_of_not_mem feedless (List.cons_ne_nil c line)
  | feed line rest feedless ih =>
      have some : rest.splitOn '\n' ≠ [] := List.splitOn_ne_nil '\n' rest
      rw [lines_append_feed feedless, ih, linesAtFeeds, linesAtFeeds,
        splitOn_append_feed feedless, List.dropLast_cons_of_ne_nil some, List.map_cons,
        List.getLast?_cons_of_ne_nil some, List.cons_append]

end Text

namespace Paragraph

open Text (isBlankLine isBlank joinLines linesAtFeeds trimChars)

/-! ## Maximal spans -/

/-- The positions from `start` up to `stop`, without `stop`. -/
structure Span where
  start : Nat
  stop : Nat
  deriving DecidableEq

instance : Membership Nat Span := ⟨fun span k => span.start ≤ k ∧ k < span.stop⟩

def Span.of {α : Type} (span : Span) (items : List α) : List α :=
  (items.drop span.start).take (span.stop - span.start)

/-- A span within `F` that cannot be made longer. -/
structure Span.IsMaximal (F : Nat → Prop) (span : Span) : Prop where
  some : span.start < span.stop
  within : ∀ k ∈ span, F k
  before : ∀ k, k + 1 = span.start → ¬ F k
  after : ¬ F span.stop

variable {F : Nat → Prop} {s t : Span}

theorem Span.IsMaximal.start_mem (h : s.IsMaximal F) : s.start ∈ s := ⟨le_rfl, h.some⟩

theorem Span.IsMaximal.at_start (h : s.IsMaximal F) : F s.start := h.within _ h.start_mem

theorem Span.IsMaximal.start_le (hs : s.IsMaximal F) (ht : t.IsMaximal F) {k : Nat}
    (ks : k ∈ s) (kt : k ∈ t) : t.start ≤ s.start := by
  by_contra earlier
  obtain ⟨-, ks⟩ := ks
  obtain ⟨kt, -⟩ := kt
  refine ht.before (t.start - 1) (by omega) (hs.within _ ⟨?_, ?_⟩) <;> omega

theorem Span.IsMaximal.stop_le (hs : s.IsMaximal F) (ht : t.IsMaximal F) {k : Nat}
    (ks : k ∈ s) (kt : k ∈ t) : s.stop ≤ t.stop := by
  by_contra later
  obtain ⟨ks, -⟩ := ks
  obtain ⟨-, kt⟩ := kt
  refine ht.after (hs.within _ ⟨?_, ?_⟩) <;> omega

/-- Maximal spans with a common position are the same. -/
theorem Span.IsMaximal.eq_of_mem (hs : s.IsMaximal F) (ht : t.IsMaximal F) {k : Nat}
    (ks : k ∈ s) (kt : k ∈ t) : s = t := by
  have starts := Nat.le_antisymm (ht.start_le hs kt ks) (hs.start_le ht ks kt)
  have stops := Nat.le_antisymm (hs.stop_le ht ks kt) (ht.stop_le hs kt ks)
  cases s
  cases t
  cases starts
  cases stops
  rfl

/-- All maximal spans from a position on, in order. -/
structure AllSpans (F : Nat → Prop) (first : Nat) (spans : List Span) : Prop where
  apart : spans.Pairwise fun s t => s.stop < t.start
  mem_iff : ∀ span, span ∈ spans ↔ span.IsMaximal F ∧ first ≤ span.start
  cover : ∀ k, first ≤ k → F k → ∃ span ∈ spans, k ∈ span

theorem allSpans_nil {first : Nat} (h : ∀ k, first ≤ k → ¬ F k) : AllSpans F first [] where
  apart := .nil
  mem_iff span := by
    refine ⟨fun no => absurd no List.not_mem_nil, ?_⟩
    rintro ⟨maximal, later⟩
    exact absurd maximal.at_start (h _ later)
  cover k later filled := absurd filled (h k later)

variable {first stop : Nat} {spans : List Span}

theorem AllSpans.skip (h : AllSpans F (first + 1) spans) (blank : ¬ F first) :
    AllSpans F first spans where
  apart := h.apart
  mem_iff span := by
    rw [h.mem_iff]
    refine and_congr_right fun maximal => ⟨fun later => by omega, fun later => ?_⟩
    have : first ≠ span.start := fun same => blank (same ▸ maximal.at_start)
    omega
  cover k later filled := by
    have : first ≠ k := fun same => blank (same ▸ filled)
    exact h.cover k (by omega) filled

theorem AllSpans.cons (h : AllSpans F (stop + 1) spans) (head : (Span.mk first stop).IsMaximal F) :
    AllSpans F first (⟨first, stop⟩ :: spans) where
  apart := List.pairwise_cons.2 ⟨fun span hspan => ((h.mem_iff span).1 hspan).2, h.apart⟩
  mem_iff span := by
    have some : first < stop := head.some
    rw [List.mem_cons, h.mem_iff]
    constructor
    · rintro (rfl | ⟨maximal, later⟩)
      · exact ⟨head, le_rfl⟩
      · exact ⟨maximal, by omega⟩
    · rintro ⟨maximal, later⟩
      by_cases inside : span.start < stop
      · exact .inl (maximal.eq_of_mem head maximal.start_mem ⟨later, inside⟩)
      · have : span.start ≠ stop := fun same => head.after (same ▸ maximal.at_start)
        exact .inr ⟨maximal, by omega⟩
  cover k later filled := by
    by_cases inside : k < stop
    · exact ⟨_, List.mem_cons_self, later, inside⟩
    · have : k ≠ stop := fun same => head.after (same ▸ filled)
      obtain ⟨span, hspan, hk⟩ := h.cover k (by omega) filled
      exact ⟨span, List.mem_cons_of_mem _ hspan, hk⟩

/-! ## Runs and spans -/

/-- At this position stands a line that is not blank. -/
def FilledAt (lines : List (List Char)) (k : Nat) : Prop :=
  ∃ line, lines[k]? = some line ∧ isBlankLine line = false

theorem not_filledAt_of_length_le {lines : List (List Char)} {k : Nat} (h : lines.length ≤ k) :
    ¬ FilledAt lines k := by
  rintro ⟨line, found, -⟩
  rw [List.getElem?_eq_none h] at found
  cases found

theorem allSpans_past {lines : List (List Char)} {first : Nat} (h : lines.length ≤ first) :
    AllSpans (FilledAt lines) first [] :=
  allSpans_nil fun _ later => not_filledAt_of_length_le (h.trans later)

theorem not_filledAt_length {line : List Char} (blank : isBlankLine line = true)
    (done rest : List (List Char)) : ¬ FilledAt (done ++ line :: rest) done.length := by
  rintro ⟨found, here, full⟩
  rw [List.getElem?_append_right le_rfl, Nat.sub_self, List.getElem?_cons_zero,
    Option.some_inj] at here
  rw [← here, blank] at full
  cases full

theorem not_filledAt_last {done : List (List Char)}
    (blank : ∀ line ∈ done.getLast?, isBlankLine line = true) (rest : List (List Char)) {k : Nat}
    (h : k + 1 = done.length) : ¬ FilledAt (done ++ rest) k := by
  rintro ⟨line, found, full⟩
  rw [List.getElem?_append_left (by omega)] at found
  have last : done.getLast? = some line := by
    rw [List.getLast?_eq_getElem?, ← h, Nat.add_sub_cancel, found]
  rw [blank line last] at full
  cases full

theorem filledAt_block {current : List (List Char)}
    (full : ∀ line ∈ current, isBlankLine line = false) (done rest : List (List Char)) {k : Nat}
    (later : done.length ≤ k) (inside : k < done.length + current.length) :
    FilledAt (done ++ (current ++ rest)) k := by
  have bound : k - done.length < current.length := by omega
  refine ⟨current[k - done.length], ?_, full _ (List.getElem_mem bound)⟩
  rw [List.getElem?_append_right later, List.getElem?_append_left bound,
    List.getElem?_eq_getElem bound]

theorem of_block (done current rest : List (List Char)) :
    (Span.mk done.length (done.length + current.length)).of (done ++ (current ++ rest)) =
      current := by
  rw [Span.of, List.drop_left, Nat.add_sub_cancel_left, List.take_left]

/-- The lines collected so far are a maximal span if a blank line or none is next. -/
theorem isMaximal_block {done current rest : List (List Char)} (some : current ≠ [])
    (full : ∀ line ∈ current, isBlankLine line = false)
    (before : ∀ line ∈ done.getLast?, isBlankLine line = true)
    (after : ¬ FilledAt (done ++ (current ++ rest)) (done.length + current.length)) :
    (Span.mk done.length (done.length + current.length)).IsMaximal
      (FilledAt (done ++ (current ++ rest))) where
  some := Nat.lt_add_of_pos_right (List.length_pos_iff.2 some)
  within _ hk := filledAt_block full done rest hk.1 hk.2
  before _ hk := not_filledAt_last before (current ++ rest) hk
  after := after

/-- Of the lines `done ++ current ++ rest`, the runs take the maximal spans behind `done`. -/
theorem exists_spans_runs (done current rest : List (List Char))
    (full : ∀ line ∈ current, isBlankLine line = false)
    (before : ∀ line ∈ done.getLast?, isBlankLine line = true) :
    ∃ spans, AllSpans (FilledAt (done ++ (current ++ rest))) done.length spans ∧
      runs current rest = spans.map (·.of (done ++ (current ++ rest))) := by
  -- the induction is on the lines to come; all positions are those of the whole
  -- list of lines, so the spans found later need not be moved
  fun_induction runs current rest generalizing done with
  | case1 current none =>
      obtain rfl := List.isEmpty_iff.1 none
      exact ⟨[], allSpans_past (by simp), rfl⟩
  | case2 current some =>
      have ended : ¬ FilledAt (done ++ (current ++ [])) (done.length + current.length) :=
        not_filledAt_of_length_le (by simp)
      have beyond : AllSpans (FilledAt (done ++ (current ++ [])))
          (done.length + current.length + 1) [] := allSpans_past (by simp)
      refine ⟨_, beyond.cons (isMaximal_block (by simpa using some) full before ended), ?_⟩
      rw [List.map_singleton, of_block]
  | case3 current line rest blank none ih =>
      obtain rfl := List.isEmpty_iff.1 none
      obtain ⟨spans, all, same⟩ := ih (done ++ [line]) (List.forall_mem_nil _)
        (by simpa using blank)
      have lines : done ++ [line] ++ ([] ++ rest) = done ++ ([] ++ line :: rest) := by simp
      rw [lines, List.length_append, List.length_singleton] at all
      exact ⟨spans, all.skip (not_filledAt_length blank done rest), lines ▸ same⟩
  | case4 current line rest blank some ih =>
      obtain ⟨spans, all, same⟩ := ih (done ++ current ++ [line]) (List.forall_mem_nil _)
        (by simpa using blank)
      have lines : done ++ current ++ [line] ++ ([] ++ rest) =
          done ++ (current ++ line :: rest) := by simp
      have ended := not_filledAt_length blank (done ++ current) rest
      rw [List.append_assoc, List.length_append] at ended
      rw [lines, List.length_append, List.length_append, List.length_singleton] at all
      refine ⟨_, all.cons (isMaximal_block (by simpa using some) full before ended), ?_⟩
      rw [List.map_cons, of_block, same, lines]
  | case5 current line rest filled ih =>
      have lines : done ++ (current ++ [line] ++ rest) =
          done ++ (current ++ line :: rest) := by simp
      rw [← lines]
      refine ih done ?_ before
      exact List.forall_mem_append.2 ⟨full, List.forall_mem_singleton.2 (by simpa using filled)⟩

/-! ## Documents -/

/-- The text of a paragraph with these lines. -/
def textOf (trim : Bool) (run : List (List Char)) : List Char :=
  let joined := ['\n'].intercalate run
  if trim then (joined.dropWhile isBlank).rdropWhile isBlank else joined

theorem textOf_eq (trim : Bool) (run : List (List Char)) :
    textOf trim run = if trim then trimChars (joinLines run) else joinLines run := by
  rw [textOf, joinLines, Text.joinChars_eq_intercalate, Text.trimChars_eq]

theorem texts_eq_map_textOf (document : List Char) (trim : Bool) :
    texts document trim = (runsOf document).map (textOf trim) :=
  List.map_congr_left fun run _ => (textOf_eq trim run).symm

theorem IsRun.joinLines_ne_nil {run : List (List Char)} (h : IsRun run) : joinLines run ≠ [] := by
  obtain ⟨line, more, rfl⟩ := List.exists_cons_of_ne_nil h.some
  have full := h.full line List.mem_cons_self
  cases more with
  | nil =>
      rintro rfl
      cases full
  | cons next more =>
      rw [Text.joinLines_cons_cons]
      exact List.append_ne_nil_of_right_ne_nil line (List.cons_ne_nil _ _)

theorem IsRun.textOf_ne_nil {run : List (List Char)} (h : IsRun run) (trim : Bool) :
    textOf trim run ≠ [] := by
  rw [textOf_eq]
  cases trim with
  | false => exact h.joinLines_ne_nil
  | true =>
      rw [if_pos rfl, trimChars_joinLines h]
      exact h.trimRun.joinLines_ne_nil

/-- A paragraph with one text below it. -/
def paragraphValue (text : String) : Value :=
  .object (.ofList [("type", .string "paragraph"), ("children", .array
    [.object (.ofList [("type", .string "text"), ("value", .string text)])])])

/-- A root with these paragraphs below it, and nothing else. -/
def documentValue (texts : List String) : Value :=
  .object (.ofList [("type", .string "root"), ("children", .array (texts.map paragraphValue))])

theorem ofList_pair (k j : String) (v w : Value) :
    Fields.ofList [(k, v), (j, w)] = (Fields.empty.insert k v).insert j w :=
  rfl

theorem toValue_branch (kind : String) (items : List Value) :
    ((Node.new kind).setEntries items).toValue =
      .object (.ofList [("type", .string kind), ("children", .array items)]) := by
  rw [ofList_pair]
  rfl

theorem toValue_text (text : String) :
    (Node.text text).toValue =
      .object (.ofList [("type", .string "text"), ("value", .string text)]) := by
  rw [Node.text, Node.set_of_ne _ (by decide), ofList_pair]
  rfl

theorem toValue_ofText (text : String) : (ofText text).toValue = paragraphValue text := by
  have entries : (Node.new "paragraph").entries = [] := rfl
  rw [ofText, Node.pushChild, entries, List.nil_append, toValue_branch, toValue_text]
  rfl

theorem root_setEntries (items : List Value) :
    Node.root.setEntries items = (Node.new "root").setEntries items := by
  rw [Node.root, Node.set_of_ne _ (by decide)]
  exact Node.ext (Fields.insert_insert_self _ "children" _ _)

theorem toValue_parse (document : String) (trim : Bool) :
    (parse document trim).toValue =
      documentValue ((texts document.toList trim).map String.ofList) := by
  have each : Node.toValue ∘ (fun text => ofText (String.ofList text)) =
      paragraphValue ∘ String.ofList :=
    funext fun text => toValue_ofText (String.ofList text)
  rw [parse, Node.setChildren, List.map_map, each, root_setEntries, toValue_branch,
    documentValue, List.map_map]

end Paragraph

open Paragraph (Span FilledAt parse documentValue textOf contents runsOf)

/--
The paragraphs of a document are the maximal spans of lines that are not blank, in
order, each with its lines joined by line feeds for a text.  Every such line is in
exactly one of them, and none is without text.
-/
theorem paragraphs_are_maximal_runs (d : String) (trim : Bool) :
    let lines := Text.linesAtFeeds d.toList
    ∃ spans : List Span,
      spans.Pairwise (fun span next => span.stop < next.start) ∧
      (∀ span, span ∈ spans ↔ span.IsMaximal (FilledAt lines)) ∧
      (parse d trim).toValue =
        documentValue (spans.map fun span => String.ofList (textOf trim (span.of lines))) ∧
      (∀ k, FilledAt lines k → ∃! span, span ∈ spans ∧ k ∈ span) ∧
      spans.flatMap (·.of lines) = lines.filter (fun line => !Text.isBlankLine line) ∧
      ∀ span ∈ spans, textOf trim (span.of lines) ≠ [] := by
  rw [← Text.lines_eq_linesAtFeeds]
  intro lines
  obtain ⟨spans, all, same⟩ := Paragraph.exists_spans_runs [] [] lines
    (List.forall_mem_nil _) (by simp)
  have runs : runsOf d.toList = spans.map (·.of lines) := same
  have maximal (span : Span) : span ∈ spans ↔ span.IsMaximal (FilledAt lines) :=
    (all.mem_iff span).trans (and_iff_left (Nat.zero_le _))
  refine ⟨spans, all.apart, maximal, ?_, ?_, ?_, ?_⟩
  · rw [Paragraph.toValue_parse, Paragraph.texts_eq_map_textOf, runs, List.map_map, List.map_map]
    rfl
  · intro k filled
    obtain ⟨span, hspan, hk⟩ := all.cover k (Nat.zero_le k) filled
    refine ⟨span, ⟨hspan, hk⟩, ?_⟩
    rintro other ⟨hother, hk'⟩
    exact ((maximal other).1 hother).eq_of_mem ((maximal span).1 hspan) hk' hk
  · rw [List.flatMap_def, ← runs]
    exact Paragraph.flatten_runsOf d.toList
  · intro span hspan
    have run := Paragraph.isRun_of_mem_runsOf d.toList (span.of lines)
      (runs ▸ List.mem_map_of_mem hspan)
    exact run.textOf_ne_nil trim

namespace Stretches

/-- Neither the return within a line nor the blanks at its ends break a paragraph. -/
def document : String := "\r\none \r\n\u00a0\n \n two\rthree\n\u2003four\r"

end Stretches

theorem stretch_is_maximal :
    FilledAt (Text.linesAtFeeds Stretches.document.toList) 5 ∧
    ∃ span : Span, span.IsMaximal (FilledAt (Text.linesAtFeeds Stretches.document.toList)) ∧
      5 ∈ span ∧ textOf true (span.of (Text.linesAtFeeds Stretches.document.toList)) ≠ [] := by
  have filled : FilledAt (Text.linesAtFeeds Stretches.document.toList) 5 :=
    ⟨"\u2003four\r".toList, by decide, by decide⟩
  obtain ⟨spans, -, maximal, -, once, -, full⟩ :=
    paragraphs_are_maximal_runs Stretches.document true
  obtain ⟨span, ⟨hspan, inside⟩, -⟩ := once 5 filled
  exact ⟨filled, span, (maximal span).1 hspan, inside, full span hspan⟩

example : contents (parse Stretches.document true) = ["one", "two\rthree\n\u2003four"] := by
  rw [Paragraph.contents_parse]
  decide

end DocPipeline
