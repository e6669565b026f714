import DocPipeline.Proofs.Driving
import DocPipeline.Proofs.Reparsing
import DocPipeline.Proofs.TrimmedTexts

/-!
# Words of documents and trees

The words of a text are what blanks stand between.  A line feed, a carriage
return and what trimming takes away are blank, so a document has the words of
its lines, and these are the words of its paragraphs.  A tree has the words of
its texts, and trimming it takes none away.
-/

namespace DocPipeline

namespace Text

/-! ## Words -/

/-- The pieces between blanks, without those that are empty. -/
def words (cs : List Char) : List (List Char) :=
  (cs.splitOnP isBlank).filter fun piece => !piece.isEmpty

theorem words_append_blank (front : List Char) {c : Char} (blank : isBlank c = true)
    (back : List Char) : words (front ++ c :: back) = words front ++ words back := by
  rw [words, List.splitOnP_append_cons front back blank, List.filter_append]
  rfl

theorem words_cons_blank {c : Char} (blank : isBlank c = true) (cs : List Char) :
    words (c :: cs) = words cs :=
  words_append_blank [] blank cs

theorem words_blanks_append {blanks : List Char} (blank : ∀ c ∈ blanks, isBlank c = true)
    (cs : List Char) : words (blanks ++ cs) = words cs := by
  induction blanks with
  | nil => rfl
  | cons c blanks ih =>
      obtain ⟨here, later⟩ := List.forall_mem_cons.1 blank
      rw [List.cons_append, words_cons_blank here, ih later]

theorem words_of_blank {blanks : List Char} (blank : ∀ c ∈ blanks, isBlank c = true) :
    words blanks = [] := by
  have all := words_blanks_append blank []
  rwa [List.append_nil] at all

theorem words_append_blanks {blanks : List Char} (blank : ∀ c ∈ blanks, isBlank c = true)
    (cs : List Char) : words (cs ++ blanks) = words cs := by
  cases blanks with
  | nil => rw [List.append_nil]
  | cons c blanks =>
      obtain ⟨here, later⟩ := List.forall_mem_cons.1 blank
      rw [words_append_blank cs here, words_of_blank later, List.append_nil]

/-- The first character belongs to the first word if neither it nor the next is blank. -/
theorem length_words_cons_cons {c d : Char} (full : isBlank c = false) (next : isBlank d = false)
    (cs : List Char) : (words (c :: d :: cs)).length = (words (d :: cs)).length := by
  obtain ⟨piece, pieces, split⟩ := List.exists_cons_of_ne_nil (List.splitOnP_ne_nil isBlank cs)
  simp [words, List.splitOnP_cons_eq_if_modifyHead, full, next, split]

theorem countWordsIn_eq_length (cs : List Char) : countWordsIn cs = (words cs).length := by
  fun_induction countWordsIn cs with
  | case1 => rfl
  | case2 c blank => rw [words_of_blank (by simpa using blank)]; rfl
  | case3 c full => simp [words, List.splitOnP_cons_eq_if_modifyHead, full]
  | case4 c d cs ih =>
      rw [ih]
      cases here : isBlank c with
      | true => simp [words_cons_blank here]
      | false =>
          cases next : isBlank d with
          | true =>
              have ended := words_append_blank [c] next cs
              have alone : words [c] = [[c]] := by
                simp [words, List.splitOnP_cons_eq_if_modifyHead, here]
              rw [List.singleton_append, alone] at ended
              rw [ended, words_cons_blank next]
              simp
          | false => simp [length_words_cons_cons here next]

/-! ## Trimming, lines and returns -/

theorem words_trimChars (cs : List Char) : words (trimChars cs) = words cs := by
  have front : ∀ c ∈ cs.takeWhile isBlank, isBlank c = true := fun c => List.mem_takeWhile_imp
  have back : ∀ c ∈ (cs.dropWhile isBlank).rtakeWhile isBlank, isBlank c = true := fun c =>
    List.mem_rtakeWhile_imp
  calc words (trimChars cs)
      = words (trimChars cs ++ (cs.dropWhile isBlank).rtakeWhile isBlank) :=
        (words_append_blanks back _).symm
    _ = words (cs.dropWhile isBlank) := by
        rw [trimChars_eq, List.rdropWhile_append_rtakeWhile]
    _ = words (cs.takeWhile isBlank ++ cs.dropWhile isBlank) :=
        (words_blanks_append front _).symm
    _ = words cs := by rw [List.takeWhile_append_dropWhile]

theorem words_withoutReturn (line : List Char) : words (withoutReturn line) = words line := by
  unfold withoutReturn
  split
  · next ends =>
    obtain ⟨before, rfl⟩ := List.getLast?_eq_some_iff.1 ends
    have blank : ∀ c ∈ ['\r'], isBlank c = true := List.forall_mem_singleton.2 (by decide)
    rw [List.dropLast_concat, words_append_blanks blank]
  · rfl

theorem words_joinLines (ls : List (List Char)) : words (joinLines ls) = ls.flatMap words := by
  induction ls with
  | nil => rfl
  | cons line more ih =>
      cases more with
      | nil => simp [joinLines, joinChars]
      | cons next more =>
          rw [joinLines_cons_cons, words_append_blank line (by decide), ih]
          rfl

/-- No word goes over the end of a line. -/
theorem flatMap_words_lines (cs : List Char) : (lines cs).flatMap words = words cs := by
  induction cs using feedInduction with
  | last line feedless =>
      cases line with
      | nil => rfl
      | cons c line =>
          rw [lines_of_not_mem feedless (List.cons_ne_nil c line), List.flatMap_singleton]
  | feed line rest feedless ih =>
      rw [lines_append_feed feedless, List.flatMap_cons, ih, words_withoutReturn,
        words_append_blank line (by decide)]

end Text

/-! ## Documents -/

namespace Paragraph

open Text (words)

theorem flatMap_words_contentLines (document : List Char) :
    (contentLines document).flatMap words = words document := by
  rw [← Text.flatMap_words_lines, contentLines]
  induction Text.lines document with
  | nil => rfl
  | cons line more ih =>
      rw [List.filter_cons, List.flatMap_cons, ← ih]
      cases blank : Text.isBlankLine line with
      | true =>
          have none : words line = [] := Text.words_of_blank (List.all_eq_true.1 blank)
          simp [none]
      | false => simp

/-- No word is split, joined to another or left out. -/
theorem flatMap_words_texts (document : List Char) (trim : Bool) :
    (texts document trim).flatMap words = words document := by
  have each : words ∘ (fun run => if trim then Text.trimChars (Text.joinLines run)
      else Text.joinLines run) = fun run => run.flatMap words := by
    funext run
    cases trim with
    | false => exact Text.words_joinLines run
    | true => exact (Text.words_trimChars _).trans (Text.words_joinLines run)
  calc (texts document trim).flatMap words
      = (runsOf document).flatMap fun run => run.flatMap words := by
        rw [← each]
        exact List.flatMap_map ..
    _ = (runsOf document).flatten.flatMap words := by
        rw [List.flatten_eq_flatMap, List.flatMap_assoc]
        rfl
    _ = words document := by rw [flatten_runsOf, flatMap_words_contentLines]

end Paragraph

/-! ## Trees -/

namespace Node

/-- The words of the texts of a tree, in order. -/
def words (node : Node) : List (List Char) :=
  node.textValues.flatMap fun value => Text.words value.toList

theorem wordCount_eq_length (node : Node) : node.wordCount = node.words.length := by
  rw [wordCount, words]
  induction node.textValues with
  | nil => rfl
  | cons value more ih =>
      rw [List.map_cons, List.foldr_cons, ih, List.flatMap_cons, List.length_append,
        Text.countWords, Text.countWordsIn_eq_length]

theorem words_mapText_trim (node : Node) : (node.mapText Text.trim).words = node.words := by
  rw [words, textValues_mapText, List.flatMap_map]
  refine List.flatMap_congr fun value _ => ?_
  rw [Text.toList_trim, Text.words_trimChars]

theorem words_of_not_text {node : Node} (h : node.isText = false) :
    node.words = node.children.flatMap words := by
  rw [words, textValues_of_not_text h, List.flatMap_assoc]
  rfl

theorem words_of_join_eq_empty {node : Node} (empty : String.join node.textValues = "") :
    node.words = [] := by
  have each : ∀ value ∈ node.textValues, value.toList = [] := by
    have joined := congrArg String.toList empty
    simpa [String.toList_join] using joined
  exact List.flatMap_eq_nil_iff.2 fun value hvalue => by rw [each value hvalue]; rfl

/-- A paragraph that is dropped is without text, and so without words. -/
theorem flatMap_words_filter_keeps (children : List Node) :
    (children.filter keeps).flatMap words = children.flatMap words := by
  induction children with
  | nil => rfl
  | cons child more ih =>
      rw [List.filter_cons, List.flatMap_cons, ← ih]
      cases kept : child.keeps with
      | true => rfl
      | false =>
          have empty : String.join child.textValues = "" := by
            simp only [keeps, Bool.or_eq_false_iff] at kept
            simpa using kept.2
          rw [words_of_join_eq_empty empty]
          rfl

theorem words_trimText (tree : Node) : tree.trimText.words = tree.words := by
  have same := isText_trimText tree
  cases text : tree.isText with
  | true =>
      have trimmed : tree.trimText.textValues = (tree.mapText Text.trim).textValues := by
        rw [textValues_of_text (same.trans text), ← ownText?_of_text (same.trans text),
          ownText?_trimText, ← ownText?_mapText,
          ownText?_of_text ((isText_mapText _ tree).trans text),
          textValues_of_text ((isText_mapText _ tree).trans text)]
      rw [words, trimmed]
      exact words_mapText_trim tree
  | false =>
      rw [words_of_not_text (same.trans text), children_trimText, flatMap_words_filter_keeps,
        words_of_not_text text, List.flatMap_map]
      exact List.flatMap_congr fun child _ => words_mapText_trim child

theorem words_parse (document : String) (trim : Bool) :
    (Paragraph.parse document trim).words = Text.words document.toList := by
  have root : (Paragraph.parse document trim).isText = false := by
    rw [isText, Paragraph.parse, setChildren, kind_setEntries]
    rfl
  have each (text : List Char) : (Paragraph.ofText (String.ofList text)).words = Text.words text := by
    rw [words, Paragraph.textValues_ofText, List.flatMap_singleton, String.toList_ofList]
  rw [words_of_not_text root, Paragraph.parse, children_setChildren, List.flatMap_map,
    ← Paragraph.flatMap_words_texts document.toList trim]
  exact List.flatMap_congr fun text _ => each text

end Node

/-! ## What is counted -/

/-- The number stands in the data of the file, which is the same in everything else. -/
structure File.Counted (file : File) (n : Nat) (counted : File) : Prop where
  number : counted.data.get? "wordCount" = some (.int n)
  others : ∀ key, key ≠ "wordCount" → counted.data.get? key = file.data.get? key
  rest : { counted with data := file.data } = file

namespace Builtin

variable (index : Nat) (plugin : String) (store : Namespace.Handle) (tree : Node) (file : File)
  (w : World)

theorem counted_setData (n : Nat) : file.Counted n (file.setData wordCountKey (.int n)) where
  number := (file.get?_setData ..).trans (if_pos rfl)
  others _ ne := (file.get?_setData ..).trans (if_neg ne)
  rest := rfl

theorem advance_wordCount :
    Run.advance store [⟨index, plugin, wordCount⟩] ⟨tree, file⟩ w =
      (.finished (.ok ⟨tree, file.setData wordCountKey (.int tree.words.length)⟩),
        w.record (.invoked index plugin)) := by
  rw [← tree.wordCount_eq_length]
  rfl

theorem advance_trim (rest : List Bound) :
    Run.advance store (⟨index, plugin, trim⟩ :: rest) ⟨tree, file⟩ w =
      Run.advance store rest ⟨tree.trimText, file⟩ (w.record (.invoked index plugin)) :=
  rfl

end Builtin

/--
A document has the words of its tree, whether it is trimmed while it is parsed or
not, and counting them stores their number.  No tree has other words once it has
been trimmed, so the number stored is the same if the trimming transformer has
run before.
-/
theorem words_of_document_counted (store : Namespace.Handle) (file : File) (w : World)
    (i j : Nat) (counter trimmer : String) :
    let counting : Bound := ⟨i, counter, Builtin.wordCount⟩
    let trimming : Bound := ⟨j, trimmer, Builtin.trim⟩
    let run (transformers : List Bound) (tree : Node) :=
      (Run.drive ⟨store, transformers, .at ⟨tree, file⟩⟩ w).1
    (∀ (d : String) (trim : Bool),
      (Paragraph.parse d trim).textValues.flatMap (fun value => Text.words value.toList) =
        Text.words d.toList ∧
      ∃ counted, run [counting] (Paragraph.parse d trim) =
          some (.ok ⟨Paragraph.parse d trim, counted⟩) ∧
        file.Counted (Text.words d.toList).length counted) ∧
    ∀ tree : Node, ∃ counted,
      run [counting] tree = some (.ok ⟨tree, counted⟩) ∧
      run [trimming, counting] tree = some (.ok ⟨tree.trimText, counted⟩) ∧
      file.Counted tree.words.length counted := by
  intro counting trimming run
  have alone (tree : Node) : run [counting] tree =
      some (.ok ⟨tree, file.setData Builtin.wordCountKey (.int tree.words.length)⟩) :=
    congrArg Prod.fst (Run.drive_of_finished (Builtin.advance_wordCount i counter store tree file w))
  constructor
  · intro d trim
    have words := Node.words_parse d trim
    refine ⟨words, _, alone _, ?_⟩
    rw [words]
    exact Builtin.counted_setData file _
  · intro tree
    refine ⟨_, alone tree, ?_, Builtin.counted_setData file _⟩
    have behind := Builtin.advance_wordCount i counter store tree.trimText file
      (w.record (.invoked j trimmer))
    rw [← Builtin.advance_trim, tree.words_trimText] at behind
    exact congrArg Prod.fst (Run.drive_of_finished behind)

example : Text.words "\u2003one\r\ntwo\rthree \n\n four\u00a0".toList =
    ["one".toList, "two".toList, "three".toList, "four".toList] := by
  decide

end DocPipeline
