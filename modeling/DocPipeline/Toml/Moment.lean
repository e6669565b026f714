import DocPipeline.Text.Reader

/-!
# Dates and times

A moment is a date, a time of day, or both, and then possibly with the offset
from universal time.  It is read in any of the spellings that TOML allows and
written in one.
-/

namespace DocPipeline.Toml

open Reader

structure Date where
  year : Nat
  month : Nat
  day : Nat
  deriving DecidableEq, Repr

structure Time where
  hour : Nat
  minute : Nat
  second : Nat
  nanosecond : Nat
  deriving DecidableEq, Repr

inductive Offset where
  | universal
  | minutes (n : Int)
  deriving DecidableEq, Repr

inductive Moment where
  | date (date : Date)
  | time (time : Time)
  | dateTime (date : Date) (time : Time) (offset : Option Offset)
  deriving DecidableEq, Repr

/-! ## The calendar -/

def isLeapYear (year : Nat) : Bool := year % 4 == 0 && (year % 100 != 0 || year % 400 == 0)

def daysInMonth (year month : Nat) : Nat :=
  match month with
  | 2 => if isLeapYear year then 29 else 28
  | 4 | 6 | 9 | 11 => 30
  | _ => 31

/-! ## Reading -/

def fixedDigits (count low high : Nat) : Reader Nat := fun cs =>
  let digits := cs.take count
  let n := Digits.toNat 10 digits
  if digits.length = count ∧ digits.all Char.isDigit ∧ low ≤ n ∧ n ≤ high then
    some (n, cs.drop count)
  else none

def Date.read : Reader Date := fun cs => do
  let (year, cs) ← fixedDigits 4 0 9999 cs
  let (_, cs) ← word "-" cs
  let (month, cs) ← fixedDigits 2 1 12 cs
  let (_, cs) ← word "-" cs
  let (day, cs) ← fixedDigits 2 1 (daysInMonth year month) cs
  return (⟨year, month, day⟩, cs)

/-- A fraction of a second in nanoseconds; further digits are dropped. -/
def nanoseconds (digits : List Char) : Nat :=
  let kept := digits.take 9
  Digits.toNat 10 kept * Nat.pow 10 (9 - kept.length)

def secondFraction : Reader Nat
  | '.' :: cs => (takeWhile1 Char.isDigit).map nanoseconds cs
  | cs => some (0, cs)

def Time.read : Reader Time := fun cs => do
  let (hour, cs) ← fixedDigits 2 0 23 cs
  let (_, cs) ← word ":" cs
  let (minute, cs) ← fixedDigits 2 0 59 cs
  let (_, cs) ← word ":" cs
  let (second, cs) ← fixedDigits 2 0 60 cs
  let (nanosecond, cs) ← secondFraction cs
  return (⟨hour, minute, second, nanosecond⟩, cs)

def Offset.readMinutes (sign : Int) : Reader Offset := fun cs => do
  let (hours, cs) ← fixedDigits 2 0 23 cs
  let (_, cs) ← word ":" cs
  let (rest, cs) ← fixedDigits 2 0 59 cs
  return (.minutes (sign * (hours * 60 + rest)), cs)

def Offset.read : Reader Offset
  | 'Z' :: cs => some (.universal, cs)
  | 'z' :: cs => some (.universal, cs)
  | '+' :: cs => readMinutes 1 cs
  | '-' :: cs => readMinutes (-1) cs
  | _ => none

def timeAfterDate (date : Date) : Reader Moment := fun cs => do
  let (_, cs) ← item (fun c => c == 'T' || c == 't' || c == ' ') cs
  let (time, cs) ← Time.read cs
  match Offset.read cs with
  | some (offset, cs) => return (.dateTime date time (some offset), cs)
  | none => return (.dateTime date time none, cs)

def Moment.read : Reader Moment := fun cs =>
  match Date.read cs with
  | some (day, cs) => firstOf [timeAfterDate day, fun cs => some (.date day, cs)] cs
  | none => (Time.read.map .time) cs

/-! ## Writing -/

def padded (width n : Nat) : String :=
  let digits := Nat.toDigits 10 n
  String.ofList (List.replicate (width - digits.length) '0' ++ digits)

def Date.text (d : Date) : String :=
  padded 4 d.year ++ "-" ++ padded 2 d.month ++ "-" ++ padded 2 d.day

def Time.fractionText (t : Time) : String :=
  if t.nanosecond = 0 then ""
  else
    let digits := (padded 9 t.nanosecond).toList.reverse.dropWhile (· == '0')
    "." ++ String.ofList digits.reverse

def Time.text (t : Time) : String :=
  padded 2 t.hour ++ ":" ++ padded 2 t.minute ++ ":" ++ padded 2 t.second ++ t.fractionText

def Offset.text : Offset → String
  | .universal => "Z"
  | .minutes n =>
      (if n < 0 then "-" else "+") ++ padded 2 (n.natAbs / 60) ++ ":" ++
        padded 2 (n.natAbs % 60)

def Moment.text : Moment → String
  | .date d => d.text
  | .time t => t.text
  | .dateTime d t offset => d.text ++ "T" ++ t.text ++ (offset.map Offset.text).getD ""

end DocPipeline.Toml
