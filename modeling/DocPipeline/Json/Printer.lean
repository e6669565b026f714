import DocPipeline.Value
import DocPipeline.Double.Shortest

/-!
# Writing JSON

Fields come in key order.  Strings escape the quote, the backslash and control
characters only.  A double is written with its shortest digits: positionally,
with at least one decimal, when its leading digit stands for a power of ten
from `-5` to `15`, and otherwise with an exponent that always has a sign.
-/

namespace DocPipeline

/-! ## Numbers -/

namespace Double

/-- Least and greatest leading exponent written without an exponent. -/
def positionalExponents : Int × Int := (-5, 15)

def digitsText (digits : Nat) (exponent : Int) : String :=
  let ds := (toString digits).toList
  let lead : Int := exponent + ds.length - 1
  if positionalExponents.1 ≤ lead ∧ lead ≤ positionalExponents.2 then
    if 0 ≤ exponent then
      String.ofList (ds ++ List.replicate exponent.toNat '0') ++ ".0"
    else if 0 ≤ lead then
      let whole := (lead + 1).toNat
      String.ofList (ds.take whole) ++ "." ++ String.ofList (ds.drop whole)
    else "0." ++ String.ofList (List.replicate (-lead - 1).toNat '0' ++ ds)
  else
    let fraction := if ds.length ≤ 1 then "" else "." ++ String.ofList (ds.drop 1)
    let sign := if lead < 0 then "-" else "+"
    String.ofList (ds.take 1) ++ fraction ++ "e" ++ sign ++ toString lead.natAbs

def text (d : Double) : String :=
  let x := d.shortest
  (if d.negative then "-" else "") ++
    (if d.isZero then "0.0" else digitsText x.digits x.exponent)

end Double

def Number.text : Number → String
  | .int n => toString n
  | .double d => d.text

/-! ## Strings -/

namespace Json

def hexDigit (n : Nat) : Char := ((Nat.toDigits 16 n).head?).getD '0'

def escaped (c : Char) : List Char :=
  match c with
  | '"' => ['\\', '"']
  | '\\' => ['\\', '\\']
  | '\n' => ['\\', 'n']
  | '\r' => ['\\', 'r']
  | '\t' => ['\\', 't']
  | '\x08' => ['\\', 'b']
  | '\x0c' => ['\\', 'f']
  | c =>
      if c.toNat < 0x20 then
        ['\\', 'u', '0', '0', hexDigit (c.toNat / 16), hexDigit (c.toNat % 16)]
      else [c]

def quoted (s : String) : String :=
  "\"" ++ String.ofList (s.toList.flatMap escaped) ++ "\""

end Json

/-! ## Compact text -/

open Json

mutual

/-- The value as JSON text without blanks. -/
def Value.compact : Value → String
  | .null => "null"
  | .bool b => if b then "true" else "false"
  | .number n => n.text
  | .string s => quoted s
  | .array items => "[" ++ ",".intercalate (Value.compactItems items) ++ "]"
  | .object fields => "\x7b" ++ ",".intercalate fields.compactMembers ++ "\x7d"

def Value.compactItems : List Value → List String
  | [] => []
  | v :: vs => v.compact :: Value.compactItems vs

def Fields.compactMembers : {lo : Option String} → Fields lo → List String
  | _, .nil => []
  | _, .cons key _ value rest => (quoted key ++ ":" ++ value.compact) :: rest.compactMembers

end

/-! ## Indented text -/

def Json.margin (indent : Nat) : String := String.join (List.replicate indent "  ")

/-- Items on lines of their own between two marks, or just the marks. -/
def Json.block (opening closing : String) (indent : Nat) (items : List String) : String :=
  match items with
  | [] => opening ++ closing
  | items =>
      let inner := "\n" ++ margin (indent + 1)
      opening ++ inner ++ ("," ++ inner).intercalate items ++
        "\n" ++ margin indent ++ closing

mutual

/-- The value as JSON text indented by two blanks per level. -/
def Value.indented (indent : Nat) : Value → String
  | .array items => block "[" "]" indent (Value.indentedItems (indent + 1) items)
  | .object fields => block "\x7b" "\x7d" indent (fields.indentedMembers (indent + 1))
  | .null => "null"
  | .bool b => if b then "true" else "false"
  | .number n => n.text
  | .string s => quoted s

def Value.indentedItems (indent : Nat) : List Value → List String
  | [] => []
  | v :: vs => v.indented indent :: Value.indentedItems indent vs

def Fields.indentedMembers (indent : Nat) : {lo : Option String} → Fields lo → List String
  | _, .nil => []
  | _, .cons key _ value rest =>
      (quoted key ++ ": " ++ value.indented indent) :: rest.indentedMembers indent

end

end DocPipeline
