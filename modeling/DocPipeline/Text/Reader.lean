/-!
# Readers

A reader takes a value off the front of a text and returns the rest, or fails.
A reader is repeated at most as often as the text has characters, so repetition
ends on every text.
-/

namespace DocPipeline

abbrev Reader (α : Type) := List Char → Option (α × List Char)

namespace Reader

variable {α β : Type}

def item (accept : Char → Bool) : Reader Char
  | c :: rest => if accept c then some (c, rest) else none
  | [] => none

def exactly : List Char → Reader Unit
  | [], cs => some ((), cs)
  | _ :: _, [] => none
  | e :: es, c :: rest => if e = c then exactly es rest else none

def word (expected : String) : Reader Unit := exactly expected.toList

def takeWhile (accept : Char → Bool) : Reader (List Char) :=
  fun cs => some (cs.takeWhile accept, cs.dropWhile accept)

def takeWhile1 (accept : Char → Bool) : Reader (List Char) := fun cs =>
  match cs.takeWhile accept with
  | [] => none
  | found => some (found, cs.dropWhile accept)

/-- Reads with `read` until it fails, at most `limit` times. -/
def manyUpTo {σ : Type} (read : σ → Option (α × σ)) : (limit : Nat) → σ → List α × σ
  | 0, s => ([], s)
  | limit + 1, s =>
      match read s with
      | none => ([], s)
      | some (a, s) =>
          let (as, final) := manyUpTo read limit s
          (a :: as, final)

/-- Reads with `read` until it fails; a reader that always advances meets no limit. -/
def many (read : Reader α) (cs : List Char) : List α × List Char :=
  manyUpTo read cs.length cs

def separated (read : Reader α) (separator : Reader Unit) : Reader (List α) := fun cs => do
  let (a, rest) ← read cs
  let (as, final) := many (fun cs => do let (_, rest) ← separator cs; read rest) rest
  return (a :: as, final)

def firstOf : List (Reader α) → Reader α
  | [], _ => none
  | read :: others, cs =>
      match read cs with
      | some found => some found
      | none => firstOf others cs

def map (f : α → β) (read : Reader α) : Reader β := fun cs =>
  (read cs).map fun (a, rest) => (f a, rest)

def all? (read : Reader α) (cs : List Char) : Option α :=
  match read cs with
  | some (a, []) => some a
  | _ => none

end Reader

/-! ## Digits -/

namespace Digits

def value? (base : Nat) (c : Char) : Option Nat :=
  let v :=
    if '0' ≤ c ∧ c ≤ '9' then some (c.toNat - '0'.toNat)
    else if 'a' ≤ c ∧ c ≤ 'f' then some (c.toNat - 'a'.toNat + 10)
    else if 'A' ≤ c ∧ c ≤ 'F' then some (c.toNat - 'A'.toNat + 10)
    else none
  v.filter (· < base)

def isDigit (base : Nat) (c : Char) : Bool := (value? base c).isSome

/-- The number a text of digits denotes; other characters are skipped. -/
def toNat (base : Nat) (cs : List Char) : Nat :=
  cs.foldl (fun n c => match value? base c with | some d => n * base + d | none => n) 0

end Digits

end DocPipeline
