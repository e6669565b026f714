import DocPipeline.Text.Reader

/-!
# TOML text

Blanks, comments, the four kinds of string, and keys.  A control character other
than the tab may stand nowhere but at the end of a line.
-/

namespace DocPipeline.Toml

open Reader

/-! ## Between the words -/

def isBlank (c : Char) : Bool := c == ' ' || c == '\t'

def blanks (cs : List Char) : List Char := cs.dropWhile isBlank

def isPlain (c : Char) : Bool := c == '\t' || 0x20 ≤ c.toNat && c.toNat ≠ 0x7f

def newline : Reader Unit
  | '\n' :: rest => some ((), rest)
  | '\r' :: '\n' :: rest => some ((), rest)
  | _ => none

def comment : List Char → List Char
  | '#' :: rest => rest.dropWhile isPlain
  | cs => cs

/-- Blanks and a comment up to the end of the line or of the text. -/
def lineEnd : Reader Unit := fun cs =>
  match comment (blanks cs) with
  | [] => some ((), [])
  | cs => newline cs

def gapPiece : Reader Unit
  | [] => none
  | '#' :: rest => newline (rest.dropWhile isPlain)
  | c :: rest => if isBlank c then some ((), rest) else newline (c :: rest)

/-- Skips blanks, ends of lines, and comments up to the end of their line. -/
def gap (cs : List Char) : List Char := (many gapPiece cs).2

/-! ## Escapes -/

def codePoint (count : Nat) : Reader Char := fun cs =>
  let digits := cs.take count
  let code := Digits.toNat 16 digits
  if digits.length = count ∧ digits.all (Digits.isDigit 16) ∧ code.isValidChar then
    some (Char.ofNat code, cs.drop count)
  else none

def escape : Reader Char
  | 'b' :: cs => some ('\x08', cs)
  | 't' :: cs => some ('\t', cs)
  | 'n' :: cs => some ('\n', cs)
  | 'f' :: cs => some ('\x0c', cs)
  | 'r' :: cs => some ('\r', cs)
  | '"' :: cs => some ('"', cs)
  | '\\' :: cs => some ('\\', cs)
  | 'u' :: cs => codePoint 4 cs
  | 'U' :: cs => codePoint 8 cs
  | _ => none

/-! ## Strings on one line -/

def basicChar : Reader Char
  | [] => none
  | '"' :: _ => none
  | '\\' :: cs => escape cs
  | c :: cs => if isPlain c then some (c, cs) else none

def literalChar : Reader Char
  | [] => none
  | '\'' :: _ => none
  | c :: cs => if isPlain c then some (c, cs) else none

/-- Characters up to a closing quote, from after the opening one. -/
def upTo (quote : Char) (char : Reader Char) : Reader String := fun cs =>
  let (found, cs) := many char cs
  (item (· == quote)).map (fun _ => String.ofList found) cs

def basicString : Reader String := upTo '"' basicChar

def literalString : Reader String := upTo '\'' literalChar

/-! ## Strings over several lines -/

def lineBreak : Reader (List Char) := newline.map fun _ => ['\n']

/-- From after a backslash at the end of a line: everything up to the next text. -/
def continuation : Reader (List Char) := fun cs => do
  let (_, cs) ← newline (blanks cs)
  let blankOrBreak := firstOf [(item isBlank).map fun _ => (), newline]
  return ([], (many blankOrBreak cs).2)

def basicPiece : Reader (List Char)
  | '\\' :: cs => firstOf [continuation, escape.map ([·])] cs
  | cs => firstOf [basicChar.map ([·]), lineBreak] cs

def literalPiece : Reader (List Char) := firstOf [literalChar.map ([·]), lineBreak]

/-- One or two quotes in the middle of a text. -/
def innerQuotes (quote : Char) : Reader (List Char) := fun cs =>
  let run := cs.takeWhile (· == quote)
  if run.length = 1 ∨ run.length = 2 then some (run, cs.drop run.length) else none

/-- The three closing quotes; up to two more before them belong to the text. -/
def closingQuotes (quote : Char) : Reader (List Char) := fun cs =>
  let run := cs.takeWhile (· == quote)
  if 3 ≤ run.length ∧ run.length ≤ 5 then some (run.drop 3, cs.drop run.length) else none

/-- A text up to three quotes, from after the three opening ones and a line end there. -/
def upToThree (quote : Char) (piece : Reader (List Char)) : Reader String := fun cs => do
  let cs := (newline cs).elim cs (·.2)
  let (pieces, cs) := many (firstOf [innerQuotes quote, piece]) cs
  let (final, cs) ← closingQuotes quote cs
  return (String.ofList (pieces.flatten ++ final), cs)

def string : Reader String
  | '"' :: '"' :: '"' :: cs => upToThree '"' basicPiece cs
  | '"' :: cs => basicString cs
  | '\'' :: '\'' :: '\'' :: cs => upToThree '\'' literalPiece cs
  | '\'' :: cs => literalString cs
  | _ => none

/-! ## Keys -/

abbrev Key := List String

def isBare (c : Char) : Bool := c.isAlphanum || c == '_' || c == '-'

def keyPart : Reader String
  | '"' :: cs => basicString cs
  | '\'' :: cs => literalString cs
  | cs => (takeWhile1 isBare).map String.ofList cs

/-- Keys with this many parts are refused, as are terms nested as deep. -/
def depthLimit : Nat := 80

def key : Reader Key := fun cs => do
  let padded : Reader String := fun cs => do
    let (part, cs) ← keyPart (blanks cs)
    return (part, blanks cs)
  let (parts, cs) ← separated padded (word ".") cs
  if parts.length < depthLimit then return (parts, cs) else none

end DocPipeline.Toml
