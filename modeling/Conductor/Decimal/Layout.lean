import Conductor.Decimal.Digits
import Conductor.Decimal.Shortest

/-!
# How a number is laid out

The digits of a number come from `Binary64.shortest`; a `Layout` says how a tie between two numerals
goes and which numbers are written without an exponent. A number without a fraction keeps `.0`.
-/

namespace Conductor

/-- The choices of a format for numbers in the text of a message. -/
structure Layout where
  /-- The exponents of ten of the first digit for which no exponent is written. -/
  plain : Int → Bool
  /-- Which of two equally near numerals is shown. -/
  tie : Binary64.Tie

namespace Layout

/-- Trailing zeros moved from the digits into the exponent; `fuel` bounds their number. -/
def trimZeros : Nat → Nat → Int → Nat × Int
  | 0, digits, exp => (digits, exp)
  | fuel + 1, digits, exp =>
    if digits ≠ 0 ∧ digits % 10 = 0 then trimZeros fuel (digits / 10) (exp + 1) else (digits, exp)

/-- Positional notation with at least one digit on both sides of the point. -/
def positional (digits : List Char) (exp : Int) : List Char :=
  if 0 ≤ exp then digits ++ List.replicate exp.natAbs '0' ++ ['.', '0']
  else
    let places := exp.natAbs
    if places < digits.length then
      digits.take (digits.length - places) ++ '.' :: digits.drop (digits.length - places)
    else '0' :: '.' :: List.replicate (places - digits.length) '0' ++ digits

/-- Notation with an exponent: one digit, the others behind a point, and the exponent with its sign. -/
def scientific (digits : List Char) (place : Int) : List Char :=
  let first := digits.take 1
  let others := digits.drop 1
  first ++ (if others.isEmpty then [] else '.' :: others) ++
    ['e', if place < 0 then '-' else '+'] ++ Digits.ofNat place.natAbs

/-- The text of a number. -/
def render (l : Layout) : Binary64 → String
  | .nan => "NaN"
  | .infinite neg => if neg then "-inf" else "inf"
  | .finite neg mant exp =>
    let body :=
      if mant = 0 then ['0', '.', '0']
      else
        let n := Binary64.shortest l.tie mant exp
        let (digits, exp) := trimZeros 20 n.digits n.exp
        let text := Digits.ofNat digits
        let place := exp + (text.length : Int) - 1
        if l.plain place then positional text exp else scientific text place
    String.ofList (if neg then '-' :: body else body)

end Layout

end Conductor
