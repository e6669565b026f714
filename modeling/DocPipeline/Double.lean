/-!
# Finite double-precision numbers

A finite binary64 number is a sign together with the rank of its magnitude
among the nonnegative finite numbers.  Rank `0` is zero, rank `1` the smallest
positive number, and so on, so ranks are ordered as magnitudes are.  All
arithmetic is exact arithmetic on `Nat` followed by one rounding to nearest,
ties to even.
-/

namespace DocPipeline

/-- One more than the rank of the largest finite magnitude. -/
def Double.rankCount : Nat := 2047 * Nat.pow 2 52

structure Double where
  negative : Bool
  rank : Fin Double.rankCount
  deriving DecidableEq

namespace Double

def zero : Double := ⟨false, ⟨0, by decide⟩⟩

instance : Inhabited Double := ⟨zero⟩

def neg (d : Double) : Double := { d with negative := !d.negative }

def isZero (d : Double) : Bool := d.rank.val == 0

/-- Numeric equality: the two zeros are equal. -/
def same (a b : Double) : Bool := (a.isZero && b.isZero) || a == b

/-! ## The exact value: `significand * 2 ^ exponent` -/

def significand (d : Double) : Nat :=
  if d.rank.val / Nat.pow 2 52 = 0 then d.rank.val % Nat.pow 2 52
  else Nat.pow 2 52 + d.rank.val % Nat.pow 2 52

def exponent (d : Double) : Int :=
  if d.rank.val / Nat.pow 2 52 = 0 then -1074
  else (d.rank.val / Nat.pow 2 52 : Nat) - 1075

/-! ## Rounding -/

/-- The quotient `num / den` to the nearest integer, a tie to the even one. -/
def divNearest (num den : Nat) : Nat :=
  let q := num / den
  let r := num % den
  if 2 * r < den then q else if den < 2 * r then q + 1 else q + q % 2

/-- The exponent `e` with `2 ^ e ≤ num / den < 2 ^ (e + 1)`. -/
def log2Ratio (num den : Nat) : Int :=
  let e : Int := (num.log2 : Int) - (den.log2 : Int)
  if num * Nat.pow 2 den.log2 < den * Nat.pow 2 num.log2 then e - 1 else e

/-- `num / den * 2 ^ (-q)` to the nearest integer. -/
def scaleNearest (num den : Nat) (q : Int) : Nat :=
  if 0 ≤ q then divNearest num (den * Nat.pow 2 q.toNat)
  else divNearest (num * Nat.pow 2 (-q).toNat) den

/--
The rank of the finite magnitude nearest to `num / den`, if it does not exceed
the largest one.  Subnormal numbers and a significand rounded up to `2 ^ 53`
need no case of their own: `s` units of `2 ^ q` always have this rank.
-/
def nearestRank? (num den : Nat) : Option (Fin rankCount) :=
  if num = 0 then some ⟨0, by decide⟩
  else
    let q := max (log2Ratio num den - 52) (-1074)
    let s := scaleNearest num den q
    let rank := (q + 1074).toNat * Nat.pow 2 52 + s
    if h : rank < rankCount then some ⟨rank, h⟩ else none

/-- The double nearest to `± num / den`; `none` is an overflow. -/
def ofRatio? (negative : Bool) (num den : Nat) : Option Double :=
  (nearestRank? num den).map fun rank => ⟨negative, rank⟩

/-- The magnitude as a quotient of naturals. -/
def ratio (d : Double) : Nat × Nat :=
  if 0 ≤ d.exponent then (d.significand * Nat.pow 2 d.exponent.toNat, 1)
  else (d.significand, Nat.pow 2 (-d.exponent).toNat)

def mul? (a b : Double) : Option Double :=
  ofRatio? (a.negative != b.negative) (a.ratio.1 * b.ratio.1) (a.ratio.2 * b.ratio.2)

/-- The rounded quotient; the divisor is not zero. -/
def div? (a b : Double) : Option Double :=
  ofRatio? (a.negative != b.negative) (a.ratio.1 * b.ratio.2) (a.ratio.2 * b.ratio.1)

/-! ## Decimal numbers -/

def digitCount (n : Nat) : Nat := (Nat.toDigits 10 n).length

/--
The double nearest to `± digits * 10 ^ exponent`; `none` is an overflow.
Magnitudes far outside the range are settled by their length, before the power
of ten is formed.
-/
def ofDecimal? (negative : Bool) (digits : Nat) (exponent : Int) : Option Double :=
  if digits = 0 then some ⟨negative, zero.rank⟩
  else
    let size := digitCount digits + exponent
    if 400 < size then none
    else if size < -400 then some ⟨negative, zero.rank⟩
    else if 0 ≤ exponent then ofRatio? negative (digits * Nat.pow 10 exponent.toNat) 1
    else ofRatio? negative digits (Nat.pow 10 (-exponent).toNat)

end Double

end DocPipeline
