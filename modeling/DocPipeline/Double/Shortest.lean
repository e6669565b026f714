import DocPipeline.Double

/-!
# Shortest decimal digits

The decimal written for a double has the fewest digits that read back as the
same double, and among those it is the nearest one.  A decimal reads back when
it lies in the interval of numbers that round to the double; the ends belong to
that interval exactly if the significand is even.
-/

namespace DocPipeline.Double

/-- A positive decimal `digits * 10 ^ exponent`. -/
structure Decimal where
  digits : Nat
  exponent : Int
  deriving DecidableEq, Repr

def powTenRatio (n : Nat) (k : Int) : Nat × Nat :=
  if 0 ≤ k then (n * Nat.pow 10 k.toNat, 1) else (n, Nat.pow 10 (-k).toNat)

/--
The interval that rounds to `d`, in quarters of the spacing above `d`: below a
power of two the spacing is half as wide.
-/
def roundsHere (d : Double) (n : Nat) (k : Int) : Bool :=
  let s := d.significand
  let unit := powTenRatio n k
  let scale : Nat × Nat :=
    if 0 ≤ d.exponent then (Nat.pow 2 d.exponent.toNat, 4)
    else (1, 4 * Nat.pow 2 (-d.exponent).toNat)
  let lowGap := if s = Nat.pow 2 52 ∧ -1074 < d.exponent then 1 else 2
  let x := unit.1 * scale.2
  let low := (4 * s - lowGap) * scale.1 * unit.2
  let high := (4 * s + 2) * scale.1 * unit.2
  if s % 2 = 0 then decide (low ≤ x ∧ x ≤ high) else decide (low < x ∧ x < high)

/-- Twice the distance from `d` to the decimal, over a common denominator. -/
def isNearer (d : Double) (n m : Nat) (k : Int) : Bool :=
  let v := d.ratio
  let a := powTenRatio n k
  let b := powTenRatio m k
  let x := v.1 * a.2
  let gap (y : Nat) : Nat := if x ≤ y then y - x else x - y
  decide (gap (a.1 * v.2) < gap (b.1 * v.2)) ||
    (gap (a.1 * v.2) == gap (b.1 * v.2) && n % 2 == 0)

/-- The best decimal on the grid of multiples of `10 ^ k`, if any reads back. -/
def onGrid? (d : Double) (k : Int) : Option Decimal :=
  let v := d.ratio
  let unit := powTenRatio 1 k
  let n := v.1 * unit.2 / (v.2 * unit.1)
  match roundsHere d n k && n != 0, roundsHere d (n + 1) k with
  | true, true => some ⟨if isNearer d n (n + 1) k then n else n + 1, k⟩
  | true, false => some ⟨n, k⟩
  | false, true => some ⟨n + 1, k⟩
  | false, false => none

/-- The decimal exponent of the leading digit of `num / den`. -/
def leadingExponent (num den : Nat) : Int :=
  let e : Int := (digitCount num : Int) - (digitCount den : Int)
  let p := powTenRatio 1 e
  if num * p.2 < p.1 * den then e - 1 else e

/-- Drops trailing zeros, at most `fuel` of them. -/
def dropZeros : Nat → Decimal → Decimal
  | 0, x => x
  | fuel + 1, x =>
      if x.digits % 10 = 0 ∧ x.digits ≠ 0 then
        dropZeros fuel ⟨x.digits / 10, x.exponent + 1⟩
      else x

/-- The shortest decimal that reads back as the magnitude of `d`; zero is `0`. -/
def shortest (d : Double) : Decimal :=
  if d.isZero then ⟨0, 0⟩
  else
    let lead := leadingExponent d.ratio.1 d.ratio.2
    let grids := (List.range 17).map fun (i : Nat) => lead - (i : Int)
    match grids.findSome? (onGrid? d) with
    | some x => dropZeros 20 x
    | none => ⟨d.significand, d.exponent⟩

end DocPipeline.Double
