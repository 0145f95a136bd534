import SqlText.Binary64.Shortest

/-! # Numbers as text

A finite number is written with the digits of its shortest decimal. It is positional, with at least
one digit after the point, from `0.0001` up to but not including `10 ^ 16`, and has an exponent
elsewhere; so the text always shows that the number is not an integer. -/

namespace SqlText.Binary64

/-- The largest and the smallest position of the point, counted from the first digit, at which a
number is written positionally. -/
def maxPoint : Int := 16

def minPoint : Int := -3

def zeros (n : Nat) : List Char := List.replicate n '0'

/-- Drops the zeros at the end. -/
def stripZeros (ds : List Char) : List Char := (ds.reverse.dropWhile (· = '0')).reverse

/-- The digits `ds` with the point after the first `point` of them. -/
def positional (ds : List Char) (point : Int) : List Char :=
  if point ≤ 0 then '0' :: '.' :: zeros (-point).toNat ++ ds
  else if point < ds.length then ds.take point.toNat ++ '.' :: ds.drop point.toNat
  else ds ++ zeros (point - ds.length).toNat ++ ['.', '0']

/-- The same value with the point after the first digit, or left out if that is the only one. -/
def scientific (ds : List Char) (point : Int) : List Char :=
  let mantissa := match ds with
    | [] => []
    | [d] => [d]
    | d :: rest => d :: '.' :: rest
  mantissa ++ 'e' :: (toString (point - 1)).toList

/-- The digits without the zeros at their end, with a point or an exponent. -/
def Decimal.text (d : Decimal) : List Char :=
  let all := Nat.toDigits 10 d.digits
  let point : Int := all.length + d.exponent
  let ds := stripZeros all
  if minPoint ≤ point ∧ point ≤ maxPoint then positional ds point else scientific ds point

/-- The text without a sign. -/
def magnitudeText (x : Binary64) : List Char := if x.isZero then ['0', '.', '0'] else x.shortest.text

/-- For a finite number; the sign of a zero is kept. -/
def text (x : Binary64) : String :=
  .ofList (if x.isNegative then '-' :: x.magnitudeText else x.magnitudeText)

end SqlText.Binary64
