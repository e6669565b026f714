import DocPipeline.Text.Reader
import DocPipeline.Text.Utf8
import DocPipeline.Yaml.Cursor
import DocPipeline.Yaml.Token

/-!
# Tags, anchors and directives

What may stand before a node, and the lines that may stand before a document.
-/

namespace DocPipeline.Yaml

open Reader

/-! ## Tags -/

def isTagMark (c : Char) : Bool :=
  c == ';' || c == '/' || c == '?' || c == ':' || c == '@' || c == '&' || c == '=' ||
    c == '+' || c == '$' || c == '.' || c == '!' || c == '~' || c == '*' || c == '\'' ||
    c == '(' || c == ')'

def isVerbatimMark (c : Char) : Bool := c == ',' || c == '[' || c == ']'

def octetCount? (first : Nat) : Option Nat :=
  if first < 0x80 then some 1
  else if 0xc0 ≤ first ∧ first < 0xe0 then some 2
  else if 0xe0 ≤ first ∧ first < 0xf0 then some 3
  else if 0xf0 ≤ first ∧ first < 0xf8 then some 4
  else none

def escapedOctet (c : Cursor) : Option (Nat × Cursor) :=
  match c.rest with
  | '%' :: a :: b :: _ =>
      if Digits.isDigit 16 a && Digits.isDigit 16 b then
        some (Digits.toNat 16 [a, b], c.advance 3)
      else none
  | _ => none

def isContinuation (octet : Nat) : Bool := 0x80 ≤ octet && octet < 0xc0

/-- As many escaped octets as the first of them asks for; they need not be a character. -/
def escapedOctets (c : Cursor) : Option (List UInt8 × Cursor) := do
  let (first, _) ← escapedOctet c
  let count ← octetCount? first
  let (octets, after) := manyUpTo escapedOctet count c
  if octets.length = count ∧ (octets.drop 1).all isContinuation then
    return (octets.map UInt8.ofNat, after)
  else none

def tagPiece (isVerbatim : Bool) (c : Cursor) : Option (List UInt8 × Cursor) :=
  match c.peek? with
  | none => none
  | some '%' => escapedOctets c
  | some x =>
      if isNameChar x || isTagMark x || isVerbatim && isVerbatimMark x then
        some ([UInt8.ofNat x.toNat], c.next)
      else none

/-- The text of a tag, which must not be empty; an escaped zero hides what follows. -/
def tagText (isVerbatim : Bool) (c : Cursor) : Option (List UInt8 × Cursor) :=
  match manyUpTo (tagPiece isVerbatim) c.rest.length c with
  | ([], _) => none
  | (pieces, after) => some (pieces.flatten.takeWhile (· ≠ 0), after)

/-- An exclamation mark, then possibly a name, then possibly another mark. -/
def handle (c : Cursor) : Option (List Char × Cursor) :=
  match c.peek? with
  | some '!' =>
      let (name, after) := c.next.span isNameChar
      if after.peek? = some '!' then some ('!' :: name ++ ['!'], after.next)
      else some ('!' :: name, after)
  | _ => none

def isHandle (cs : List Char) : Bool := 1 < cs.length && cs.getLast? == some '!'

def verbatimTag (c : Cursor) : Option (TagText × Cursor) := do
  let (suffix, after) ← tagText true (c.advance 2)
  if after.peek? = some '>' then return (⟨"", suffix⟩, after.next) else none

/-- The tag of a single exclamation mark. -/
def bareTag : List UInt8 := Text.toUtf8 "!"

def shorthandTag (c : Cursor) : Option (TagText × Cursor) := do
  let (head, after) ← handle c
  if isHandle head then
    let (suffix, after) ← tagText false after
    return (⟨String.ofList head, suffix⟩, after)
  else
    let (text, after) := (tagText false after).getD ([], after)
    match Text.toUtf8 (String.ofList (head.drop 1)) ++ text with
    | [] => return (⟨"", bareTag⟩, after)
    | suffix => return (⟨"!", suffix⟩, after)

/-- A tag must be followed by a blank or a line end, or by a comma in a flow collection. -/
def tag (inFlow : Bool) (c : Cursor) : Option (Token × Cursor) := do
  let (text, after) ← if c.rest[1]? = some '<' then verbatimTag c else shorthandTag c
  if endsWord after.peek? || inFlow && after.peek? == some ',' then
    return (.tag text, after)
  none

/-! ## Anchors and aliases -/

def endsName (next : Option Char) : Bool :=
  endsWord next || next.any fun c =>
    c == '?' || c == ':' || c == ',' || c == ']' || c == '\x7d' || c == '%' || c == '@' ||
      c == '\x60'

def anchorName (c : Cursor) : Option (String × Cursor) :=
  let (name, after) := c.next.span isNameChar
  if name ≠ [] ∧ endsName after.peek? then some (String.ofList name, after) else none

/-! ## Directives -/

def shortNumber (c : Cursor) : Option (Nat × Cursor) :=
  let (digits, after) := c.span Char.isDigit
  if digits ≠ [] ∧ digits.length ≤ 9 then some (Digits.toNat 10 digits, after) else none

def versionDirective (c : Cursor) : Option (Token × Cursor) := do
  let (major, c) ← shortNumber (c.skip isBlank)
  if c.peek? ≠ some '.' then none
  let (minor, c) ← shortNumber c.next
  return (.version major minor, c)

def shorthandDirective (c : Cursor) : Option (Token × Cursor) := do
  let (head, c) ← handle (c.skip isBlank)
  if head ≠ ['!'] ∧ !isHandle head then none
  if !(c.peek?.any isBlank) then none
  let (lead, c) ← tagText true (c.skip isBlank)
  if !endsWord c.peek? then none
  return (.shorthand (String.ofList head) lead, c)

def directive (c : Cursor) : Option (Token × Cursor) := do
  let (name, c) := c.next.span isNameChar
  if !endsWord c.peek? then none
  let (token, c) ←
    if name = "YAML".toList then versionDirective c
    else if name = "TAG".toList then shorthandDirective c
    else none
  return (token, ← c.endLine)

end DocPipeline.Yaml
