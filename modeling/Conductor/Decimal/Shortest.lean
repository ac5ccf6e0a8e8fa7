import Conductor.Decimal.Binary64

/-!
# The fewest digits that read back

A binary number is shown by the shortest decimal numeral that rounds to it; of two of that length, by
the nearer one. The two can be equally near, as 0.2 and 0.3 are to a quarter, and then formats differ in
which one they take: that is a `Tie`. For every number of digits from one to seventeen the two neighbours of the value on
that decimal grid are tried, and the first grid with one that reads back wins.
-/

namespace Conductor

namespace Binary64

/-- A decimal numeral `digits · 10 ^ exp`. -/
structure Numeral where
  digits : Nat
  exp : Int
  deriving DecidableEq, Repr

/-- Which of two neighbouring numerals stands for a value halfway between them. -/
inductive Tie where
  /-- The one whose last digit is even. -/
  | even
  /-- The one farther from zero. -/
  | away
  deriving DecidableEq, Repr

/-- Whether the tie between `below` and `below + 1` goes to the latter. -/
def Tie.takesNext (below : Nat) : Tie → Bool
  | .even => below % 2 = 1
  | .away => true

/-- The exponent of ten of the first digit of the quotient `num / den`, which is not zero: the
greatest `k` with `10 ^ k ≤ num / den`. -/
def leadingPlace (num den : Nat) : Int :=
  if den ≤ num then
    ((Nat.toDigits 10 (num / den)).length : Int) - 1
  else
    -- the least `k` with `den / num ≤ 10 ^ k`
    let up := (den + num - 1) / num
    Int.neg (Nat.toDigits 10 (up - 1)).length

/-- The quotient `num / den` measured in units of `10 ^ exp`, as a fraction. -/
def inUnits (num den : Nat) (exp : Int) : Nat × Nat :=
  if exp < 0 then (num * Nat.pow 10 exp.natAbs, den) else (num, den * Nat.pow 10 exp.natAbs)

/-- The nearest numeral with the last digit at `10 ^ exp` that reads back as `mant · 2 ^ bexp`, if one
of the two neighbours does. -/
def onGrid? (tie : Tie) (mant : Nat) (bexp exp : Int) : Option Numeral :=
  let (num, den) := toRatio mant bexp
  let (n, d) := inUnits num den exp
  let below := n / d
  let readsBack (c : Nat) : Bool := ofDecimal false c exp = .finite false mant bexp
  let twice := 2 * (n % d)
  let takesNext : Bool := d < twice || (d == twice && tie.takesNext below)
  match readsBack below, readsBack (below + 1) with
  | true, true => some ⟨if takesNext then below + 1 else below, exp⟩
  | true, false => some ⟨below, exp⟩
  | false, true => some ⟨below + 1, exp⟩
  | false, false => none

/-- The shortest numeral of a finite datum other than zero. -/
def shortest (tie : Tie) (mant : Nat) (bexp : Int) : Numeral :=
  let (num, den) := toRatio mant bexp
  let place := leadingPlace num den
  let grids := (List.range 17).map fun (i : Nat) => place - (i : Int)
  (grids.findSome? (onGrid? tie mant bexp)).getD ⟨num / den, 0⟩

end Binary64

end Conductor
