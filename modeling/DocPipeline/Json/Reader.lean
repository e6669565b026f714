import DocPipeline.Datum
import DocPipeline.Text.Reader

/-!
# Reading JSON

The grammar is that of JSON text without a byte order mark.  Arrays and objects
nest at most 127 deep.

A number without fraction and exponent is an integer when it lies between
`-2 ^ 63` and `2 ^ 64 - 1`, except `-0`; every other number is a double.  The
double is formed from the leading digits that fit into 64 bits, scaled by one
power of ten in double arithmetic.
-/

namespace DocPipeline.Json

open Reader

def isSpace (c : Char) : Bool := c == ' ' || c == '\n' || c == '\t' || c == '\r'

def spaces (cs : List Char) : List Char := cs.dropWhile isSpace

/-! ## Numbers -/

/-- Appends digits to `n` while the result fits into 64 bits. -/
def takeFitting (n : Nat) : List Char → Nat × List Char
  | [] => (n, [])
  | c :: cs =>
      let n' := n * 10 + (c.toNat - '0'.toNat)
      if n' < Nat.pow 2 64 then takeFitting n' cs else (n, c :: cs)

def powerOfTen? (n : Nat) : Option Double := Double.ofDecimal? false 1 n

/-- Divides by `10 ^ n` in steps of the `largest` power of ten, which is `10 ^ 308`. -/
def divideByTens (largest d : Double) (n : Nat) : Option Double :=
  if n ≤ 308 then (powerOfTen? n).bind d.div?
  else if d.isZero then some d
  else (d.div? largest).bind fun d => divideByTens largest d (n - 308)
termination_by n

/-- `± n * 10 ^ exponent` in double arithmetic; `none` if that is not finite. -/
def scaled? (negative : Bool) (n : Nat) (exponent : Int) : Option Double := do
  let d ← Double.ofDecimal? false n 0
  let magnitude ←
    if exponent < 0 then divideByTens (← powerOfTen? 308) d (-exponent).toNat
    else if d.isZero then some d
    else if exponent ≤ 308 then do d.mul? (← powerOfTen? exponent.toNat)
    else none
  return { magnitude with negative := negative }

/-- A number read apart: sign, whole part, fraction and exponent as written. -/
structure NumberText where
  negative : Bool
  whole : List Char
  fraction : Option (List Char)
  exponent : Option Int

def NumberText.toNumber? (t : NumberText) : Option Number := do
  let (n, dropped) := takeFitting 0 t.whole
  match t.fraction, t.exponent, dropped with
  | none, none, [] =>
      if !t.negative then return .int n
      else if n ≠ 0 ∧ n ≤ Nat.pow 2 63 then return .int (-n)
      else return .double (← scaled? true n 0)
  | fraction, exponent, _ =>
      let (n, ignored) := takeFitting n (fraction.getD [])
      let kept := (fraction.getD []).length - ignored.length
      return .double (← scaled? t.negative n
        (dropped.length - kept + exponent.getD 0 : Int))

def digits1 : Reader (List Char) := takeWhile1 Char.isDigit

def wholePart : Reader (List Char)
  | '0' :: rest => some (['0'], rest)
  | cs => digits1 cs

def fractionPart : Reader (Option (List Char))
  | '.' :: rest => (digits1.map some) rest
  | cs => some (none, cs)

def exponentDigits (sign : Int) : Reader (Option Int) :=
  digits1.map fun cs => some (sign * Digits.toNat 10 cs)

def exponentPart : Reader (Option Int)
  | c :: rest =>
      if c == 'e' || c == 'E' then
        match rest with
        | '+' :: rest => exponentDigits 1 rest
        | '-' :: rest => exponentDigits (-1) rest
        | rest => exponentDigits 1 rest
      else some (none, c :: rest)
  | [] => some (none, [])

def numberText : Reader NumberText := fun cs => do
  let (negative, cs) :=
    match cs with
    | '-' :: rest => (true, rest)
    | cs => (false, cs)
  let (whole, cs) ← wholePart cs
  let (fraction, cs) ← fractionPart cs
  let (exponent, cs) ← exponentPart cs
  return (⟨negative, whole, fraction, exponent⟩, cs)

def number : Reader Number := fun cs => do
  let (t, rest) ← numberText cs
  return (← t.toNumber?, rest)

/-! ## Strings -/

def hex4 : Reader Nat
  | a :: b :: c :: d :: rest =>
      if [a, b, c, d].all (Digits.isDigit 16) then
        some (Digits.toNat 16 [a, b, c, d], rest)
      else none
  | _ => none

/-- The character after `\u`; a leading surrogate must be followed by a trailing one. -/
def unicodeEscape : Reader Char := fun cs => do
  let (u, cs) ← hex4 cs
  if 0xDC00 ≤ u ∧ u ≤ 0xDFFF then none
  else if 0xD800 ≤ u ∧ u ≤ 0xDBFF then
    let (_, cs) ← word "\\u" cs
    let (v, cs) ← hex4 cs
    if 0xDC00 ≤ v ∧ v ≤ 0xDFFF then
      return (Char.ofNat (0x10000 + (u - 0xD800) * 0x400 + (v - 0xDC00)), cs)
    else none
  else return (Char.ofNat u, cs)

def escape : Reader Char
  | '"' :: cs => some ('"', cs)
  | '\\' :: cs => some ('\\', cs)
  | '/' :: cs => some ('/', cs)
  | 'b' :: cs => some ('\x08', cs)
  | 'f' :: cs => some ('\x0c', cs)
  | 'n' :: cs => some ('\n', cs)
  | 'r' :: cs => some ('\r', cs)
  | 't' :: cs => some ('\t', cs)
  | 'u' :: cs => unicodeEscape cs
  | _ => none

def stringChar : Reader Char
  | '\\' :: cs => escape cs
  | '"' :: _ => none
  | c :: cs => if c.toNat < 0x20 then none else some (c, cs)
  | [] => none

/-- The text up to the first quote that is not escaped. -/
def rawString : Reader (List Char)
  | '"' :: rest => some ([], rest)
  | '\\' :: c :: rest => (rawString rest).map fun (raw, rest) => ('\\' :: c :: raw, rest)
  | c :: rest => (rawString rest).map fun (raw, rest) => (c :: raw, rest)
  | [] => none

def stringRest : Reader String := fun cs => do
  let (raw, rest) ← rawString cs
  match many stringChar raw with
  | (found, []) => return (String.ofList found, rest)
  | _ => none

/-! ## Documents -/

def itemsUntil {α : Type} (close : Char) (read : Reader α) : Reader (List α) := fun cs =>
  match spaces cs with
  | [] => none
  | c :: rest =>
      if c = close then some ([], rest)
      else
        match separated read (fun cs => word "," (spaces cs)) (c :: rest) with
        | none => none
        | some (items, cs) =>
            match spaces cs with
            | [] => none
            | c :: rest => if c = close then some (items, rest) else none

def member (read : Reader Datum) : Reader (Datum × Datum) := fun cs => do
  let (_, cs) ← word "\"" (spaces cs)
  let (key, cs) ← stringRest cs
  let (_, cs) ← word ":" (spaces cs)
  let (value, cs) ← read cs
  return ((.text key, value), cs)

/-- A datum whose arrays and objects nest fewer than `depth` deep. -/
def datum : Nat → Reader Datum
  | 0, _ => none
  | depth + 1, cs =>
      match spaces cs with
      | '"' :: rest => (stringRest.map .text) rest
      | '[' :: rest =>
          if depth = 0 then none else (itemsUntil ']' (datum depth)).map .list rest
      | '\x7b' :: rest =>
          if depth = 0 then none
          else (itemsUntil '\x7d' (member (datum depth))).map .table rest
      | 't' :: rest => (word "rue").map (fun _ => .bool true) rest
      | 'f' :: rest => (word "alse").map (fun _ => .bool false) rest
      | 'n' :: rest => (word "ull").map (fun _ => .null) rest
      | cs => number.map .number cs

def depthLimit : Nat := 128

def read? (text : String) : Option Datum := do
  let (d, rest) ← datum depthLimit text.toList
  if spaces rest = [] then some d else none

def readValue? (text : String) : Option Value := do (← read? text).toValue?

end DocPipeline.Json
