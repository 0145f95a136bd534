import SqlText.Binary64.Basic

/-! # The shortest decimal that reads back

Of all decimals nearer to a number than to any other, the one with the fewest digits, and of several
of that length the nearest. -/

namespace SqlText.Binary64

/-- The decimal `digits * 10 ^ exponent`. -/
structure Decimal where
  digits : Nat
  exponent : Int
deriving DecidableEq, Repr

/-! ## The rationals that round to a number

Bounds are counted in quarters of the last place of the significand, so that they are whole. -/

/-- Numerator and denominator of `count / 4 * 2 ^ exponent`. -/
def quarters (exponent : Int) (count : Nat) : Nat × Nat :=
  (count <<< exponent.toNat, 4 <<< (-exponent).toNat)

/-- Below a power of two the next number is half as far. -/
def lowerGap (x : Binary64) : Nat := if x.fraction = 0 ∧ 1 < x.exponentField then 1 else 2

/-- Whether `num / den` is nearer to `x` than to any other number; the halfway points count when
the significand is even, since a tie goes to the even one. -/
def covers (x : Binary64) (num den : Nat) : Bool :=
  let (low, unit) := quarters x.exponent (4 * x.significand - x.lowerGap)
  let (high, _) := quarters x.exponent (4 * x.significand + 2)
  if x.significand % 2 = 0 then low * den ≤ num * unit && num * unit ≤ high * den
  else low * den < num * unit && num * unit < high * den

/-! ## Decimal grids -/

/-- One for a negative exponent: its power stands on the other side of the quotient. -/
def powerOfTen (n : Int) : Nat := Nat.pow 10 n.toNat

def digitCount (n : Nat) : Nat := (Nat.toDigits 10 n).length

/-- The `k` with `10 ^ (k - 1) ≤ num / den < 10 ^ k`. -/
def decimalPlaces (num den : Nat) : Int :=
  if den ≤ num then digitCount (num / den) else 1 - digitCount ((den - 1) / num)

/-- The neighbour of `x` among the multiples of `10 ^ exponent` that reads back as `x`; the nearer
of two, and the upper one when they are equally near. -/
def onGrid (x : Binary64) (exponent : Int) : Option Decimal :=
  let (value, unit) := quarters x.exponent (4 * x.significand)
  let num := value * powerOfTen (-exponent)
  let den := unit * powerOfTen exponent
  let below := num / den
  let readsBack (d : Nat) := x.covers (d * powerOfTen exponent) (powerOfTen (-exponent))
  match readsBack below, readsBack (below + 1) with
  | true, true => some ⟨if den ≤ 2 * (num % den) then below + 1 else below, exponent⟩
  | true, false => some ⟨below, exponent⟩
  | false, true => some ⟨below + 1, exponent⟩
  | false, false => none

/-- The decimal of every digit of the value. -/
def exact (x : Binary64) : Decimal :=
  ⟨x.significand <<< x.exponent.toNat * Nat.pow 5 (-x.exponent).toNat, min x.exponent 0⟩

/-- For a finite number that is not zero, without its sign. Seventeen digits always suffice, so the
first grid with a hit is among those searched. -/
def shortest (x : Binary64) : Decimal :=
  let (num, den) := quarters x.exponent (4 * x.significand)
  let places := decimalPlaces num den
  let grids := (List.range 17).map fun n => places - (n + 1 : Nat)
  (grids.findSome? x.onGrid).getD x.exact

end SqlText.Binary64
