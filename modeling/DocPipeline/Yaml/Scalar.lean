import DocPipeline.Datum
import DocPipeline.Text.Reader
import DocPipeline.Text.Utf8

/-!
# What YAML scalars stand for

A plain scalar is a null, a truth value or a number if it is written like one,
and a text otherwise.  A tag can ask for one of these, or for a text.
-/

namespace DocPipeline.Yaml

open Reader

/-! ## Nulls and truth values -/

def isNull (s : String) : Bool := s == "null" || s == "Null" || s == "NULL" || s == "~"

def bool? : String → Option Bool
  | "true" | "True" | "TRUE" => some true
  | "false" | "False" | "FALSE" => some false
  | _ => none

/-! ## Integers -/

/-- Whether a number goes on with digits after a leading zero, and so is none. -/
def hasLeadingZero (cs : List Char) : Bool :=
  let unsigned := match cs with
    | '+' :: rest => rest
    | '-' :: rest => rest
    | cs => cs
  match unsigned with
  | '0' :: rest => !rest.isEmpty && rest.all Char.isDigit
  | _ => false

def digitsIn? (base : Nat) (cs : List Char) : Option Nat :=
  if !cs.isEmpty && cs.all (Digits.isDigit base) then some (Digits.toNat base cs) else none

/-- A number without sign, in one of four bases. -/
def magnitude? : List Char → Option Nat
  | '0' :: 'x' :: rest => digitsIn? 16 rest
  | '0' :: 'o' :: rest => digitsIn? 8 rest
  | '0' :: 'b' :: rest => digitsIn? 2 rest
  | cs => if hasLeadingZero cs then none else digitsIn? 10 cs

def integer? (s : String) : Option Int :=
  match s.toList with
  | '+' :: cs => (magnitude? cs).map Int.ofNat
  | '-' :: cs => (magnitude? cs).map fun n => -(n : Int)
  | cs => (magnitude? cs).map Int.ofNat

/-- Integers that a value can hold. -/
def isInteger (n : Int) : Bool := -Int.pow 2 63 ≤ n && n < Int.pow 2 64

/-- Integers that are taken for integers at all; beyond them they are doubles. -/
def isWideInteger (n : Int) : Bool := -Int.pow 2 127 ≤ n && n < Int.pow 2 128

/-! ## Doubles -/

def sign : List Char → Bool × List Char
  | '-' :: cs => (true, cs)
  | '+' :: cs => (false, cs)
  | cs => (false, cs)

def exponent : Reader Int := fun cs => do
  let (_, cs) ← item (fun c => c == 'e' || c == 'E') cs
  let (negative, cs) := sign cs
  let (found, cs) ← takeWhile1 Char.isDigit cs
  let n : Int := Digits.toNat 10 found
  return (if negative then -n else n, cs)

/-- A decimal with digits on at least one side of its point, which may be missing. -/
def decimal? (negative : Bool) (cs : List Char) : Option Double := do
  let (whole, cs) ← takeWhile Char.isDigit cs
  let (part, cs) ← match cs with
    | '.' :: rest => takeWhile Char.isDigit rest
    | cs => some ([], cs)
  if whole.isEmpty && part.isEmpty then none
  let (e, cs) := (exponent cs).getD (0, cs)
  if !cs.isEmpty then none
  Double.ofDecimal? negative (Digits.toNat 10 (whole ++ part)) (e - part.length)

def isInfinity (s : String) : Bool :=
  let unsigned := (sign s.toList).2
  [".inf", ".Inf", ".INF"].any fun name => unsigned == name.toList

def isNotNumber (s : String) : Bool := s == ".nan" || s == ".NaN" || s == ".NAN"

def double? (s : String) : Option Datum :=
  if isInfinity s || isNotNumber s then some .nonfinite
  else
    let (negative, cs) := sign s.toList
    (decimal? negative cs).map fun d => .number (.double d)

/-! ## Scalars -/

/-- What an integer written as `s` stands for, unless it is too wide for a value. -/
def integerDatum (s : String) (n : Int) : Option Datum :=
  if n = 0 ∧ s.toList.head? = some '-' then some .minusZero
  else if isInteger n then some (.number (.int n))
  else none

def plainDatum (s : String) : Option Datum :=
  if s = "" ∨ isNull s then some .null
  else
    match bool? s, (integer? s).filter isWideInteger with
    | some b, _ => some (.bool b)
    | none, some n => integerDatum s n
    | none, none =>
        if hasLeadingZero s.toList then some (.text s) else some ((double? s).getD (.text s))

/-- Whether a tag begins with an exclamation mark, as those of an application do. -/
def isLocalTag (tag : List UInt8) : Bool := tag.head? == some 0x21

/-- Local tags that are texts name a type of the application, which is no datum. -/
def isForeignTag (tag : List UInt8) : Bool := isLocalTag tag && (Text.ofUtf8? tag).isSome

/-- A tag that is no text asks for nothing. -/
def taggedDatum (tag : List UInt8) (plain : Bool) (s : String) : Option Datum :=
  match Text.ofUtf8? tag with
  | some "tag:yaml.org,2002:bool" => (bool? s).map .bool
  | some "tag:yaml.org,2002:int" =>
      ((integer? s).filter isWideInteger).bind (integerDatum s)
  | some "tag:yaml.org,2002:float" => double? s
  | some "tag:yaml.org,2002:null" => if isNull s then some .null else none
  | some _ => if isLocalTag tag then none else some (.text s)
  | none => if isLocalTag tag && plain then plainDatum s else some (.text s)

def scalarDatum (tag : Option (List UInt8)) (plain : Bool) (s : String) : Option Datum :=
  match tag with
  | some tag => taggedDatum tag plain s
  | none => if plain then plainDatum s else some (.text s)

end DocPipeline.Yaml
