/-! # Binary floating-point numbers of 64 bits

A number is its bits: one of sign, eleven of exponent, fifty-two of fraction. A finite number is
`significand * 2 ^ exponent` with its sign. -/

namespace SqlText

/-- A floating-point number by its bits. -/
structure Binary64 where
  bits : UInt64
deriving DecidableEq, Repr, Inhabited

namespace Binary64

/-- `2 ^ 52`, the weight of the lowest bit of the exponent. -/
def exponentUnit : Nat := 0x10000000000000

/-- The sign bit, which zeros and NaN have too. -/
def isNegative (x : Binary64) : Bool := 0x8000000000000000 ≤ x.bits.toNat

/-- The bits of the exponent, as they are stored. -/
def exponentField (x : Binary64) : Nat := x.bits.toNat / exponentUnit % 0x800

/-- The bits below the exponent. -/
def fraction (x : Binary64) : Nat := x.bits.toNat % exponentUnit

/-! ## Kinds -/

/-- The highest exponent is kept for what is no finite number. -/
def isFinite (x : Binary64) : Bool := x.exponentField ≠ 0x7ff

def isNaN (x : Binary64) : Bool := !x.isFinite && x.fraction ≠ 0

def isInfinite (x : Binary64) : Bool := !x.isFinite && x.fraction = 0

def isZero (x : Binary64) : Bool := x.exponentField = 0 && x.fraction = 0

/-! ## Values -/

/-- Numbers below the smallest normal one have no leading bit. -/
def significand (x : Binary64) : Nat :=
  if x.exponentField = 0 then x.fraction else exponentUnit + x.fraction

/-- The power of two that the last bit of the significand counts. -/
def exponent (x : Binary64) : Int := (max 1 x.exponentField : Nat) - 1075

/-- Equality of numbers, not of bits: NaN equals nothing and the two zeros equal each other. -/
def eqv (x y : Binary64) : Bool :=
  !x.isNaN && !y.isNaN && (x.bits = y.bits || x.isZero && y.isZero)

/-- Also a zero and a NaN have a sign to turn. -/
def negate (x : Binary64) : Binary64 := ⟨x.bits ^^^ 0x8000000000000000⟩

/-! ## The nearest number to a quotient -/

/-- Rounds `num / den` to a whole number, a half to the even neighbour. -/
def roundHalfEven (num den : Nat) : Nat :=
  let q := num / den
  let r := num % den
  if 2 * r < den then q else if den < 2 * r then q + 1 else q + q % 2

/-- The `k` with `2 ^ k ≤ num / den < 2 ^ (k + 1)`. -/
def binaryOrder (num den : Nat) : Int :=
  let guess : Int := (num.log2 : Int) - den.log2
  if den <<< guess.toNat ≤ num <<< (-guess).toNat then guess else guess - 1

/-- The exponent of the last bit that is kept: 53 bits in all, but none below the smallest number,
which is also the last bit of zero. -/
def lastPlace (num den : Nat) : Int :=
  if num = 0 then -1074 else max (binaryOrder num den - 52) (-1074)

/-- The number nearest to `num / den`, or nothing where that is beyond the largest. A significand
that is rounded up to the next power of two carries into the exponent by itself. -/
def ofRatio? (num den : Nat) : Option Binary64 :=
  let place := lastPlace num den
  let significand := roundHalfEven (num <<< (-place).toNat) (den <<< place.toNat)
  let bits := (place + 1074).toNat * exponentUnit + significand
  if bits < 0x7ff * exponentUnit then some ⟨bits.toUInt64⟩ else none

def ofInt? (n : Int) : Option Binary64 :=
  (ofRatio? n.natAbs 1).map fun x => if n < 0 then x.negate else x

end Binary64

end SqlText
