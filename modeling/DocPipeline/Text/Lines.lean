/-!
# Lines

A line ends at a line feed, together with one carriage return right before it.
A carriage return anywhere else belongs to its line, and a last line without a
line feed is a line unless it is empty.
-/

namespace DocPipeline.Text

def lines : List Char → List (List Char)
  | [] => []
  | '\n' :: rest => [] :: lines rest
  | '\r' :: '\n' :: rest => [] :: lines rest
  | c :: rest =>
      match lines rest with
      | [] => [[c]]
      | line :: others => (c :: line) :: others

def linesOf (s : String) : List String := (lines s.toList).map String.ofList

def joinChars (separator : List Char) : List (List Char) → List Char
  | [] => []
  | [cs] => cs
  | cs :: others => cs ++ separator ++ joinChars separator others

end DocPipeline.Text
