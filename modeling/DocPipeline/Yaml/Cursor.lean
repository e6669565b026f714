/-!
# Positions in a YAML text

A cursor holds the text not read yet and where it begins: after how many octets
of the whole text, and in which line and column.  Five characters break lines; a carriage return right before a line feed breaks none by itself.
-/

namespace DocPipeline.Yaml

/-! ## Characters -/

def isAllowed (c : Char) : Bool :=
  c == '\t' || c == '\n' || c == '\r' || c == '\x85' ||
    0x20 ≤ c.toNat && c.toNat ≤ 0x7e ||
    0xa0 ≤ c.toNat && c.toNat ≤ 0xfffd || 0x10000 ≤ c.toNat

def isBlank (c : Char) : Bool := c == ' ' || c == '\t'

def isBreak (c : Char) : Bool :=
  c == '\n' || c == '\r' || c == '\x85' || c == '\u2028' || c == '\u2029'

def isSpacing (c : Char) : Bool := isBlank c || isBreak c

/-- Whether a word ends before this character, or before the end of the text. -/
def endsWord : Option Char → Bool
  | none => true
  | some c => isSpacing c

/-- The characters of names: letters, digits, `_` and `-`. -/
def isNameChar (c : Char) : Bool := c.isAlphanum || c == '_' || c == '-'

def byteOrderMark : Char := '\ufeff'

/-! ## Cursors -/

structure Cursor where
  rest : List Char
  octets : Nat := 0
  line : Nat := 0
  column : Nat := 0

namespace Cursor

def peek? (c : Cursor) : Option Char := c.rest.head?

def next (c : Cursor) : Cursor :=
  match c.rest with
  | [] => c
  | '\r' :: '\n' :: rest => { c with rest := '\n' :: rest, octets := c.octets + 1 }
  | x :: rest =>
      let octets := c.octets + x.utf8Size
      if isBreak x then ⟨rest, octets, c.line + 1, 0⟩
      else { c with rest, octets, column := c.column + 1 }

def advance : Nat → Cursor → Cursor
  | 0, c => c
  | n + 1, c => c.next.advance n

def span (accept : Char → Bool) (c : Cursor) : List Char × Cursor :=
  let run := c.rest.takeWhile accept
  (run, c.advance run.length)

def skip (accept : Char → Bool) (c : Cursor) : Cursor := (c.span accept).2

def skipBreak (c : Cursor) : Cursor :=
  match c.rest with
  | '\r' :: '\n' :: _ => c.advance 2
  | x :: _ => if isBreak x then c.next else c
  | [] => c

def skipComment (c : Cursor) : Cursor :=
  if c.peek? = some '#' then c.skip (!isBreak ·) else c

/-- Blanks and a comment up to the end of the line, and past it. -/
def endLine (c : Cursor) : Option Cursor :=
  let c := (c.skip isBlank).skipComment
  match c.peek? with
  | none => some c
  | some x => if isBreak x then some c.skipBreak else none

/-- Whether three characters at the start of a line mark the bounds of a document. -/
def isMark (mark : Char) (c : Cursor) : Bool :=
  c.column == 0 && c.rest.take 3 == [mark, mark, mark] && endsWord c.rest[3]?

def isAtMark (c : Cursor) : Bool := c.isMark '-' || c.isMark '.'

end Cursor

/-! ## Line breaks in scalars -/

/-- The breaks of a text; all but the two Unicode separators become line feeds. -/
def breaksOf : List Char → List Char
  | [] => []
  | '\r' :: '\n' :: rest => '\n' :: breaksOf rest
  | c :: rest =>
      if c == '\u2028' || c == '\u2029' then c :: breaksOf rest
      else if isBreak c then '\n' :: breaksOf rest
      else breaksOf rest

/-- A single line feed becomes a blank; of several the first is dropped. -/
def fold : List Char → List Char
  | ['\n'] => [' ']
  | '\n' :: more => more
  | breaks => breaks

/-- What blanks and breaks between two words of a scalar stand for. -/
def joint (spacing : List Char) : List Char :=
  if spacing.any isBreak then fold (breaksOf spacing) else spacing

end DocPipeline.Yaml
