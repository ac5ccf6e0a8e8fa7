/-!
# Binary floating-point numbers of 64 bits

A number with a fraction or an exponent is held in the binary64 format: 53 bits of significand, and an
exponent of two for its last bit that runs from −1074 to 971. Values are exact integers here, so every
rounding is a quotient of natural numbers taken to the nearest, a half going to the even neighbour.

`ofRatio` rounds a quotient, `ofDecimal` a decimal numeral. `scale` multiplies or divides by a power of
ten that is itself rounded first; that is the arithmetic of readers that keep one word of digits.
-/

namespace Conductor

/-- A datum of the format. A finite one is `mant · 2 ^ exp`, with the sign apart so that the two zeros
differ. -/
inductive Binary64 where
  | finite (neg : Bool) (mant : Nat) (exp : Int)
  | infinite (neg : Bool)
  | nan
  deriving DecidableEq, Repr, Inhabited

namespace Binary64

/-- The exponent of the last bit of the numbers nearest to zero. -/
def leastExp : Int := -1074

/-- The exponent of the last bit of the greatest numbers. -/
def greatestExp : Int := 971

/-- The first significand that does not fit. -/
def mantBound : Nat := Nat.pow 2 53

def zero (neg : Bool) : Binary64 :=
  .finite neg 0 leastExp

/-- The quotient of `num · 2 ^ (-exp)` by `den`, as a fraction of natural numbers. -/
def shifted (num den : Nat) (exp : Int) : Nat × Nat :=
  if exp < 0 then (num * Nat.pow 2 exp.natAbs, den) else (num, den * Nat.pow 2 exp.natAbs)

/-- The quotient taken to the nearest integer, a half to the even one. -/
def roundDiv (num den : Nat) : Nat :=
  let q := num / den
  let r := num % den
  if 2 * r < den then q
  else if den < 2 * r then q + 1
  else if q % 2 = 0 then q else q + 1

/-- The exponent that gives the quotient a significand of 53 bits, but no lower than the least one. -/
def expOf (num den : Nat) : Int :=
  let guess : Int := (Nat.log2 num : Int) - (Nat.log2 den : Int) - 52
  let (n, d) := shifted num den guess
  let exp := if n / d < mantBound / 2 then guess - 1 else guess
  if exp < leastExp then leastExp else exp

/-- The datum nearest to the quotient `num / den` of natural numbers, `den` not being zero. -/
def ofRatio (neg : Bool) (num den : Nat) : Binary64 :=
  if num = 0 then zero neg
  else
    let exp := expOf num den
    let (n, d) := shifted num den exp
    let mant := roundDiv n d
    let (mant, exp) := if mant = mantBound then (mant / 2, exp + 1) else (mant, exp)
    if greatestExp < exp then .infinite neg else .finite neg mant exp

/-- The datum nearest to `digits · 10 ^ exp`. Numerals that are far out of range are settled by their
order of magnitude, before any power is computed. -/
def ofDecimal (neg : Bool) (digits : Nat) (exp : Int) : Binary64 :=
  if digits = 0 then zero neg
  else
    let magnitude : Int := (Nat.toDigits 10 digits).length + exp
    if 400 < magnitude then .infinite neg
    else if magnitude < -400 then zero neg
    else if exp < 0 then ofRatio neg digits (Nat.pow 10 exp.natAbs)
    else ofRatio neg (digits * Nat.pow 10 exp.natAbs) 1

/-- A finite datum as a fraction of natural numbers, the sign apart. -/
def toRatio (mant : Nat) (exp : Int) : Nat × Nat :=
  if exp < 0 then (mant, Nat.pow 2 exp.natAbs) else (mant * Nat.pow 2 exp.natAbs, 1)

/-- The product, or for `inverse` the quotient, of a finite datum and the power of ten nearest to
`10 ^ k`. -/
def scale (x : Binary64) (inverse : Bool) (k : Nat) : Binary64 :=
  match x, ofDecimal false 1 k with
  | .finite neg mant exp, .finite _ mant' exp' =>
    let (n, d) := toRatio mant exp
    let (n', d') := toRatio mant' exp'
    if inverse then ofRatio neg (n * d') (d * n') else ofRatio neg (n * n') (d * d')
  | _, _ => x

end Binary64

end Conductor
