import DocPipeline.Yaml.Property
import DocPipeline.Yaml.ScalarText

/-!
# Layout

Turns a text into tokens.  The columns of block collections around the current
position form a stack; a token further right begins a collection and one
further left ends some.  A key without a question mark is known only by the
colon after it, so the place of a possible key is kept until then.
-/

namespace DocPipeline.Yaml

/-- A place where a key may have begun. -/
structure Candidate where
  /-- How many tokens come before it. -/
  position : Nat
  /-- Whether nothing but a key can stand there. -/
  required : Bool
  start : Cursor

/-- A key must be on one line and begin at most this many octets before its colon. -/
def keyLengthLimit : Nat := 1024

def Candidate.isStale (k : Candidate) (c : Cursor) : Bool :=
  k.start.line < c.line || k.start.octets + keyLengthLimit < c.octets

structure Layout where
  cursor : Cursor
  /-- The tokens so far, latest first. -/
  latest : List Token := []
  /-- The columns of the open block collections, innermost first. -/
  columns : List Nat := []
  /-- Where the innermost flow collection, or else the block around, may have a key. -/
  candidate : Option Candidate := none
  /-- The same for what is around each open flow collection, innermost first. -/
  outer : List (Option Candidate) := []
  /-- Whether a key may begin here. -/
  keyAllowed : Bool := true

namespace Layout

def inFlow (l : Layout) : Bool := !l.outer.isEmpty

def column (l : Layout) : Nat := l.cursor.column

def emit (t : Token) (l : Layout) : Layout := { l with latest := t :: l.latest }

def insertAt (position : Nat) (tokens : List Token) (l : Layout) : Layout :=
  let later := l.latest.length - position
  { l with latest := l.latest.take later ++ tokens.reverse ++ l.latest.drop later }

/-! ## Indentation -/

def isDeeper (column : Nat) (l : Layout) : Bool := l.columns.head?.all (· < column)

/-- Begins a block collection here, unless one at this column is open. -/
def indent (start : Token) (l : Layout) : Layout :=
  if !l.inFlow && l.isDeeper l.column then
    { l.emit start with columns := l.column :: l.columns }
  else l

/-- Ends the block collections that a line at this column does not belong to. -/
def dedent (column : Option Nat) (l : Layout) : Layout :=
  if l.inFlow then l
  else
    let isLeft (open_ : Nat) : Bool := column.all (· < open_)
    let ended := l.columns.takeWhile isLeft
    { l with
      latest := ended.map (fun _ => Token.blockEnd) ++ l.latest
      columns := l.columns.dropWhile isLeft }

/-! ## Keys -/

/-- Gives up the current candidate; a required one cannot be given up. -/
def dropCandidate (l : Layout) : Option Layout :=
  if l.candidate.any (·.required) then none else some { l with candidate := none }

def noteCandidate (l : Layout) : Option Layout :=
  if l.keyAllowed then do
    let required := !l.inFlow && l.columns.head? == some l.column
    let l ← l.dropCandidate
    return { l with candidate := some ⟨l.latest.length, required, l.cursor⟩ }
  else some l

def refresh (c : Cursor) : Option Candidate → Option (Option Candidate)
  | none => some none
  | some k => if !k.isStale c then some (some k) else if k.required then none else some none

/-- Gives up all candidates that the text has left behind. -/
def dropStale (l : Layout) : Option Layout := do
  let candidate ← refresh l.cursor l.candidate
  let outer ← l.outer.mapM (refresh l.cursor)
  return { l with candidate, outer }

/-! ## Between tokens -/

/--
Passes over blanks, comments and line ends, and over a byte order mark at the
start of a line.  A tab must not come before a key.
-/
def skipGap : (fuel : Nat) → Layout → Layout
  | 0, l => l
  | fuel + 1, l =>
      let c := l.cursor
      let c := if c.column = 0 ∧ c.peek? = some byteOrderMark then c.next else c
      let tabs := l.inFlow || !l.keyAllowed
      let c := (c.skip fun x => x == ' ' || tabs && x == '\t').skipComment
      if c.peek?.any isBreak then
        skipGap fuel { l with cursor := c.skipBreak, keyAllowed := !l.inFlow || l.keyAllowed }
      else { l with cursor := c }

/-! ## One token -/

/-- Emits a token of some characters, after which a key may begin or not. -/
def mark (t : Token) (width : Nat) (keyAllowed : Bool) (l : Layout) : Layout :=
  { l.emit t with cursor := l.cursor.advance width, keyAllowed }

/-- A document mark or a directive, outside all collections. -/
def boundary (t : Token) (after : Cursor) (l : Layout) : Option Layout := do
  let l ← (l.dedent none).dropCandidate
  return { l.emit t with cursor := after, keyAllowed := false }

def openFlow (t : Token) (l : Layout) : Option Layout := do
  let l ← l.noteCandidate
  return { l.mark t 1 true with candidate := none, outer := l.candidate :: l.outer }

def closeFlow (t : Token) (l : Layout) : Option Layout := do
  let l ← l.dropCandidate
  match l.outer with
  | [] => return l.mark t 1 false
  | candidate :: outer => return { l.mark t 1 false with candidate, outer }

def comma (l : Layout) : Option Layout := do
  return (← l.dropCandidate).mark .comma 1 true

def item (l : Layout) : Option Layout := do
  if !l.inFlow && !l.keyAllowed then none
  let l ← (l.indent .blockSequence).dropCandidate
  return l.mark .item 1 true

def key (l : Layout) : Option Layout := do
  if !l.inFlow && !l.keyAllowed then none
  let l ← (l.indent .blockMapping).dropCandidate
  return l.mark .key 1 !l.inFlow

/-- The colon after a possible key, which makes it one. -/
def valueOf (k : Candidate) (l : Layout) : Layout :=
  let starts := !l.inFlow && l.isDeeper k.start.column
  let l := l.insertAt k.position (if starts then [.blockMapping, .key] else [.key])
  let columns := if starts then k.start.column :: l.columns else l.columns
  { l with columns, candidate := none }.mark .value 1 false

def value (l : Layout) : Option Layout :=
  match l.candidate with
  | some k => some (l.valueOf k)
  | none =>
      if !l.inFlow && !l.keyAllowed then none
      else some ((l.indent .blockMapping).mark .value 1 !l.inFlow)

/-- A token that a key may begin with. -/
def startOfNode (read : Cursor → Option (Token × Cursor)) (l : Layout) : Option Layout := do
  let l ← l.noteCandidate
  let (t, cursor) ← read l.cursor
  return { l.emit t with cursor, keyAllowed := false }

def named (token : String → Token) (c : Cursor) : Option (Token × Cursor) :=
  (anchorName c).map fun (name, after) => (token name, after)

def quoted (quote : Char) (c : Cursor) : Option (Token × Cursor) :=
  (quotedScalar quote c).map fun (text, after) => (.scalar false (String.ofList text), after)

def block (isLiteral : Bool) (l : Layout) : Option Layout := do
  let l ← l.dropCandidate
  let (text, cursor) ← blockScalar isLiteral l.columns.head? l.cursor
  return { l.emit (.scalar false (String.ofList text)) with cursor, keyAllowed := true }

def plain (l : Layout) : Option Layout := do
  let l ← l.noteCandidate
  let indent := (l.columns.head?.map (· + 1)).getD 0
  let s ← plainScalar l.inFlow indent l.cursor
  return { l.emit (.scalar true (String.ofList s.text)) with
    cursor := s.after
    keyAllowed := s.brokeLine }

/-- Characters that no plain scalar begins with. -/
def isReserved (c : Char) : Bool :=
  isSpacing c || isFlowMark c || c == '-' || c == '?' || c == ':' || c == '#' || c == '&' ||
    c == '*' || c == '!' || c == '|' || c == '>' || c == '\'' || c == '"' || c == '%' ||
    c == '@' || c == '\x60'

/-- A dash, a question mark or a colon may begin a scalar if a word goes on after it. -/
def startsPlain (inFlow : Bool) (c : Char) (next : Option Char) : Bool :=
  !isReserved c || c == '-' && !next.any isBlank ||
    !inFlow && (c == '?' || c == ':') && !endsWord next

def token (l : Layout) (c : Char) : Option Layout :=
  let next := l.cursor.rest[1]?
  let standsAlone := l.inFlow || endsWord next
  if l.column = 0 ∧ c = '%' then do
    let (t, after) ← directive l.cursor
    l.boundary t after
  else if l.cursor.isMark '-' then l.boundary .documentStart (l.cursor.advance 3)
  else if l.cursor.isMark '.' then l.boundary .documentEnd (l.cursor.advance 3)
  else if c = '[' then l.openFlow .flowSequence
  else if c = '\x7b' then l.openFlow .flowMapping
  else if c = ']' then l.closeFlow .flowSequenceEnd
  else if c = '\x7d' then l.closeFlow .flowMappingEnd
  else if c = ',' then l.comma
  else if c = '-' ∧ endsWord next then l.item
  else if c = '?' ∧ standsAlone then l.key
  else if c = ':' ∧ standsAlone then l.value
  else if c = '*' then l.startOfNode (named .alias)
  else if c = '&' then l.startOfNode (named .anchor)
  else if c = '!' then l.startOfNode (tag l.inFlow)
  else if c = '|' ∧ !l.inFlow then l.block true
  else if c = '>' ∧ !l.inFlow then l.block false
  else if c = '\'' ∨ c = '"' then l.startOfNode (quoted c)
  else if startsPlain l.inFlow c next then l.plain
  else none

/-! ## All tokens -/

/-- The end of the text ends all block collections. -/
def finish (l : Layout) : Option (List Token) := do
  let l ← (l.dedent none).dropCandidate
  return l.latest.reverse

def run : (fuel : Nat) → Layout → Option (List Token)
  | 0, _ => none
  | fuel + 1, l => do
      let l ← (l.skipGap (fuel + 1)).dropStale
      let l := l.dedent (some l.column)
      match l.cursor.peek? with
      | none => l.finish
      | some c => run fuel (← l.token c)

end Layout

def tokens? (text : String) : Option (List Token) :=
  let cs := text.toList
  if cs.all isAllowed then Layout.run (cs.length + 2) { cursor := { rest := cs } } else none

end DocPipeline.Yaml
