import DocPipeline.Toml.Moment
import DocPipeline.Toml.Table

/-!
# TOML terms

What may stand after the equals sign of a key: strings, numbers, truth values,
moments, arrays, and tables written on one line.
-/

namespace DocPipeline.Toml

open Reader

/-! ## Numbers -/

/-- A digit that follows others, possibly after one underscore. -/
def nextDigit (isDigit : Char → Bool) : Reader Char
  | '_' :: cs => item isDigit cs
  | cs => item isDigit cs

def digits (isDigit : Char → Bool) : Reader (List Char) := fun cs => do
  let (first, cs) ← item isDigit cs
  let (others, cs) := many (nextDigit isDigit) cs
  return (first :: others, cs)

/-- Whether there is a minus sign; a plus sign may stand as well. -/
def sign : List Char → Bool × List Char
  | '-' :: cs => (true, cs)
  | '+' :: cs => (false, cs)
  | cs => (false, cs)

def wholeDigits : Reader (List Char)
  | '0' :: cs => some (['0'], cs)
  | cs => digits Char.isDigit cs

/-- Integers have 64 bits. -/
def isInteger (n : Int) : Bool := -Int.pow 2 63 ≤ n && n < Int.pow 2 63

def integerOf? (negative : Bool) (n : Nat) : Option Datum :=
  let value : Int := if negative then -n else n
  if isInteger value then some (.number (.int value)) else none

def integer : Reader Datum := fun cs => do
  let (negative, cs) := sign cs
  let (found, cs) ← wholeDigits cs
  return (← integerOf? negative (Digits.toNat 10 found), cs)

def basedInteger (base : Nat) : Reader Datum := fun cs => do
  let (found, cs) ← digits (Digits.isDigit base) cs
  return (← integerOf? false (Digits.toNat base found), cs)

def fraction : Reader (List Char)
  | '.' :: cs => digits Char.isDigit cs
  | _ => none

def exponent : Reader Int := fun cs => do
  let (_, cs) ← item (fun c => c == 'e' || c == 'E') cs
  let (negative, cs) := sign cs
  let (found, cs) ← digits Char.isDigit cs
  let n : Int := Digits.toNat 10 found
  return (if negative then -n else n, cs)

/-- A fraction and an exponent, of which one may be missing. -/
def fractionExponent : Reader (List Char × Int) := fun cs =>
  match fraction cs with
  | some (found, cs) =>
      match exponent cs with
      | some (e, cs) => some ((found, e), cs)
      | none => some ((found, 0), cs)
  | none => exponent.map (([], ·)) cs

def doubleOf? (negative : Bool) (n : Nat) (e : Int) : Option Datum :=
  match Double.ofDecimal? negative n e with
  | some d => some (.number (.double d))
  | none => if negative then some .nonfinite else none

def double : Reader Datum := fun cs => do
  let (negative, cs) := sign cs
  let (whole, cs) ← wholeDigits cs
  let ((part, e), cs) ← fractionExponent cs
  return (← doubleOf? negative (Digits.toNat 10 (whole ++ part)) (e - part.length), cs)

def nonfinite : Reader Datum := fun cs =>
  (firstOf [word "inf", word "nan"]).map (fun _ => .nonfinite) (sign cs).2

def number : Reader Datum
  | '0' :: 'x' :: cs => basedInteger 16 cs
  | '0' :: 'o' :: cs => basedInteger 8 cs
  | '0' :: 'b' :: cs => basedInteger 2 cs
  | cs => firstOf [double, nonfinite, integer] cs

/-! ## Moments -/

/-- The only key of the table that stands for a moment. -/
def momentKey : String := "$__toml_private_datetime"

def momentDatum (m : Moment) : Datum := .table [(.text momentKey, .text m.text)]

/-! ## Terms -/

/-- Terms with a comma between them, and possibly one at the end. -/
def arrayItems (term : Reader Datum) : Reader (List Datum) := fun cs =>
  let spaced : Reader Datum := fun cs => do
    let (d, cs) ← term (gap cs)
    return (d, gap cs)
  match separated spaced (word ",") cs with
  | none => some ([], gap cs)
  | some (items, cs) => some (items, gap ((word "," cs).elim cs (·.2)))

def keyedTerm (term : Reader Datum) : Reader (Key × Datum) := fun cs => do
  let (path, cs) ← key cs
  let (_, cs) ← word "=" cs
  let (d, cs) ← term (blanks cs)
  return ((path, d), blanks cs)

def tableEntries (term : Reader Datum) : Reader (List (Key × Datum)) := fun cs =>
  match separated (keyedTerm term) (word ",") cs with
  | none => some ([], blanks cs)
  | some found => some found

def tableOf? (entries : List (Key × Datum)) : Option Datum := do
  let built ← entries.foldlM (fun (built : Entries) e => built.insert e.2 e.1) []
  return built.toDatum

/-- A term whose arrays and tables nest at most `depth` deep. -/
def term : Nat → Reader Datum
  | _, '"' :: cs => (string.map .text) ('"' :: cs)
  | _, '\'' :: cs => (string.map .text) ('\'' :: cs)
  | _, 't' :: cs => (word "rue").map (fun _ => .bool true) cs
  | _, 'f' :: cs => (word "alse").map (fun _ => .bool false) cs
  | depth + 1, '[' :: cs => do
      let (items, cs) ← arrayItems (term depth) cs
      let (_, cs) ← word "]" cs
      return (.list items, cs)
  | depth + 1, '\x7b' :: cs => do
      let (entries, cs) ← tableEntries (term depth) cs
      let (_, cs) ← word "\x7d" cs
      return (← tableOf? entries, cs)
  | _, cs => firstOf [Moment.read.map momentDatum, number] cs

end DocPipeline.Toml
