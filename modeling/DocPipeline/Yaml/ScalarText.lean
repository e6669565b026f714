import DocPipeline.Text.Reader
import DocPipeline.Yaml.Cursor

/-!
# The text of YAML scalars

Plain scalars, quoted scalars, and block scalars.  In the first two kinds line
breaks are folded; a literal block keeps them, and a folded block keeps those
next to indented or empty lines.
-/

namespace DocPipeline.Yaml

open Reader

/-! ## Plain scalars -/

def isFlowMark (c : Char) : Bool :=
  c == ',' || c == '[' || c == ']' || c == '\x7b' || c == '\x7d'

/--
The front of a text up to a blank, a line break, or a mark that ends a plain
scalar.  Within a flow collection a colon right before a mark is an error.
-/
def plainRun (inFlow : Bool) : List Char → Option (List Char)
  | [] => some []
  | ':' :: rest =>
      if endsWord rest.head? then some []
      else if inFlow && rest.head?.any (fun c => isFlowMark c || c == '?') then none
      else (plainRun inFlow rest).map (':' :: ·)
  | c :: rest =>
      if isSpacing c || inFlow && isFlowMark c then some []
      else (plainRun inFlow rest).map (c :: ·)

/-- Whether a tab stands left of a column on a line after the first. -/
def hasTabBefore (indent : Nat) : (column : Option Nat) → List Char → Bool
  | _, [] => false
  | column, c :: rest =>
      if isBreak c then hasTabBefore indent (some 0) rest
      else
        c == '\t' && column.any (· < indent) ||
          hasTabBefore indent (column.map (· + 1)) rest

/-- The text of a plain scalar, whether line breaks were passed after it, and its end. -/
structure PlainScalar where
  text : List Char
  brokeLine : Bool
  after : Cursor

/--
Reads on in a plain scalar after the given spacing.  A further line must reach
the column `indent`, except within a flow collection.
-/
def plainFrom (inFlow : Bool) (indent : Nat) (spacing : List Char) :
    (fuel : Nat) → Cursor → Option PlainScalar
  | 0, _ => none
  | fuel + 1, c => do
      let finished : PlainScalar := ⟨[], spacing.any isBreak, c⟩
      if c.isAtMark || c.peek? == some '#' then return finished
      let run ← plainRun inFlow c.rest
      if run.isEmpty then return finished
      let text := joint spacing ++ run
      let (spacing, after) := (c.advance run.length).span isSpacing
      if spacing.isEmpty then return ⟨text, false, after⟩
      if hasTabBefore indent none spacing then none
      if !inFlow && after.column < indent then
        return ⟨text, spacing.any isBreak, after⟩
      let more ← plainFrom inFlow indent spacing fuel after
      return { more with text := text ++ more.text }

def plainScalar (inFlow : Bool) (indent : Nat) (c : Cursor) : Option PlainScalar :=
  plainFrom inFlow indent [] (c.rest.length + 1) c

/-! ## Quoted scalars -/

def singleQuotedChar (c : Cursor) : Option (Char × Cursor) :=
  match c.rest with
  | '\'' :: '\'' :: _ => some ('\'', c.advance 2)
  | '\'' :: _ => none
  | x :: _ => if isSpacing x then none else some (x, c.next)
  | [] => none

def codePoint (count : Nat) (c : Cursor) : Option (Char × Cursor) :=
  let digits := c.rest.take count
  let code := Digits.toNat 16 digits
  if digits.length = count ∧ digits.all (Digits.isDigit 16) ∧ code.isValidChar then
    some (Char.ofNat code, c.advance count)
  else none

def escapeLetter? : Char → Option Char
  | '0' => some '\x00'
  | 'a' => some '\x07'
  | 'b' => some '\x08'
  | 't' => some '\t'
  | '\t' => some '\t'
  | 'n' => some '\n'
  | 'v' => some '\x0b'
  | 'f' => some '\x0c'
  | 'r' => some '\r'
  | 'e' => some '\x1b'
  | ' ' => some ' '
  | '"' => some '"'
  | '/' => some '/'
  | '\\' => some '\\'
  | 'N' => some '\x85'
  | '_' => some '\xa0'
  | 'L' => some '\u2028'
  | 'P' => some '\u2029'
  | _ => none

def doubleQuotedChar (c : Cursor) : Option (Char × Cursor) :=
  match c.rest with
  | '\\' :: 'x' :: _ => codePoint 2 (c.advance 2)
  | '\\' :: 'u' :: _ => codePoint 4 (c.advance 2)
  | '\\' :: 'U' :: _ => codePoint 8 (c.advance 2)
  | '\\' :: letter :: _ => (escapeLetter? letter).map fun x => (x, c.advance 2)
  | '\\' :: _ => none
  | '"' :: _ => none
  | x :: _ => if isSpacing x then none else some (x, c.next)
  | [] => none

/-- The cursor past a backslash that hides the end of its line. -/
def hiddenBreak? (quote : Char) (c : Cursor) : Option Cursor :=
  match quote, c.rest with
  | '"', '\\' :: x :: _ => if isBreak x then some c.next.skipBreak else none
  | _, _ => none

/-- Reads on in a quoted scalar, up to and past its closing quote. -/
def quotedFrom (quote : Char) (char : Cursor → Option (Char × Cursor)) :
    (fuel : Nat) → Cursor → Option (List Char × Cursor)
  | 0, _ => none
  | fuel + 1, c => do
      if c.isAtMark then none
      let (run, c) := manyUpTo char (fuel + 1) c
      let (isHidden, c) := ((hiddenBreak? quote c).map (true, ·)).getD (false, c)
      if c.peek? = some quote then return (run, c.next)
      let (spacing, after) := c.span isSpacing
      if spacing.isEmpty && !isHidden then none
      let between := if isHidden then breaksOf spacing else joint spacing
      let (more, after) ← quotedFrom quote char fuel after
      return (run ++ between ++ more, after)

def quotedScalar (quote : Char) (c : Cursor) : Option (List Char × Cursor) :=
  let char := if quote == '"' then doubleQuotedChar else singleQuotedChar
  quotedFrom quote char (c.rest.length + 1) c.next

/-! ## Block scalars -/

/-- What becomes of the line breaks at the end of a block. -/
inductive Chomping where
  | strip
  | clip
  | keep
  deriving DecidableEq, Repr

structure BlockHeader where
  chomping : Chomping := .clip
  /-- Indentation beyond that of the collection around, if stated. -/
  increment : Option Nat := none

namespace BlockHeader

def chomping? : Char → Option Chomping
  | '+' => some .keep
  | '-' => some .strip
  | _ => none

def increment? (c : Char) : Option Nat := (Digits.value? 10 c).filter (· ≠ 0)

/-- Reads the two indicators, in any order, each at most once. -/
def read (c : Cursor) : BlockHeader × Cursor :=
  match c.rest with
  | x :: rest =>
      match chomping? x, increment? x with
      | some chomping, _ =>
          match rest.head?.bind increment? with
          | some n => (⟨chomping, some n⟩, c.advance 2)
          | none => (⟨chomping, none⟩, c.next)
      | none, some n =>
          match rest.head?.bind chomping? with
          | some chomping => (⟨chomping, some n⟩, c.advance 2)
          | none => (⟨.clip, some n⟩, c.next)
      | none, none => ({}, c)
  | [] => ({}, c)

end BlockHeader

/-- Passes over indentation: up to a column if there is one given, or else all of it. -/
def skipIndent (indent : Option Nat) (c : Cursor) : Cursor :=
  let blanks := (c.rest.takeWhile (· == ' ')).length
  match indent with
  | none => c.advance blanks
  | some n => c.advance (min blanks (n - c.column))

/--
Passes over empty lines and the indentation after them.  The result is their
breaks, the widest indentation seen, and the end.  A tab must not indent.
-/
def emptyLines (indent : Option Nat) :
    (fuel widest : Nat) → Cursor → Option (List Char × Nat × Cursor)
  | 0, _, _ => none
  | fuel + 1, widest, c => do
      let c := skipIndent indent c
      let widest := max widest c.column
      if (indent.all (c.column < ·)) && c.peek? == some '\t' then none
      if c.peek?.any isBreak then
        let (breaks, widest, after) ← emptyLines indent fuel widest c.skipBreak
        return (breaksOf (c.rest.take 1) ++ breaks, widest, after)
      return ([], widest, c)

/-- The end of a block: the break of its last line and the breaks of empty lines after it. -/
structure BlockEnd where
  last : List Char
  empty : List Char
  after : Cursor

def Chomping.apply : Chomping → BlockEnd → List Char
  | .strip, _ => []
  | .clip, e => e.last
  | .keep, e => e.last ++ e.empty

/-- The breaks between two lines of a block; a folded block joins lines of plain text. -/
def blockJoint (isLiteral afterBlank : Bool) (last empty : List Char) (first : Option Char) :
    List Char :=
  if !isLiteral && last == ['\n'] && !afterBlank && !first.any isBlank then
    if empty.isEmpty then [' '] else empty
  else last ++ empty

/-- Reads the lines of a block at a column, given the breaks before them. -/
def blockLines (isLiteral : Bool) (indent : Nat) (afterBlank : Bool) (last empty : List Char) :
    (fuel : Nat) → Cursor → Option (List Char × BlockEnd)
  | 0, _ => none
  | fuel + 1, c => do
      if c.rest.isEmpty || c.column ≠ indent then return ([], ⟨last, empty, c⟩)
      let before := blockJoint isLiteral afterBlank last empty c.peek?
      let (line, ended) := c.span (!isBreak ·)
      let (breaks, _, after) ←
        emptyLines (some indent) (fuel + 1) 0 ended.skipBreak
      let (more, final) ← blockLines isLiteral indent (line.head?.any isBlank)
        (breaksOf (ended.rest.take 1)) breaks fuel after
      return (before ++ line ++ more, final)

/--
A block scalar, from its indicator.  `around` is the column of the innermost
block collection around it.
-/
def blockScalar (isLiteral : Bool) (around : Option Nat) (c : Cursor) :
    Option (List Char × Cursor) := do
  let (header, c) := BlockHeader.read c.next
  let c ← c.endLine
  let fuel := c.rest.length + 1
  let stated := header.increment.map (· + around.getD 0)
  let (empty, widest, c) ← emptyLines stated fuel 0 c
  let least := max 1 ((around.map (· + 1)).getD 0)
  let indent := stated.getD (max widest least)
  let (text, final) ← blockLines isLiteral indent false [] empty (fuel + 1) c
  return (text ++ header.chomping.apply final, final.after)

end DocPipeline.Yaml
