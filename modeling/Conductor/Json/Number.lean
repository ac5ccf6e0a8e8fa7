import Conductor.Json.Value

/-!
# Numbers in JSON text

A numeral without fraction and exponent that fits is an integer. Every other numeral is read as a
binary64 number: its digits go into a word of 64 bits as long as they fit, and the word is multiplied
or divided by a power of ten. A numeral of few digits is thereby rounded once; `-0` is the negative
zero. A numeral above the range is refused.
-/

namespace Conductor

namespace Json

/-- Digits appended to a word of 64 bits, up to the first one that does not fit: the word, and the
number of digits left. -/
def fillWord (word : Nat) : List Char → Nat × Nat
  | [] => (word, 0)
  | d :: ds =>
    let word' := word * 10 + Digits.value d
    if word' < UInt64.size then fillWord word' ds else (word, ds.length + 1)

/-- A word of digits times a power of ten, if it is within the range. -/
def scaled? (neg : Bool) (word : Nat) (exp : Int) : Option Binary64 :=
  let x := Binary64.ofRatio neg word 1
  let k := exp.natAbs
  if word = 0 then some x
  else if 0 ≤ exp then
    if 308 < k then none
    else match x.scale false k with
      | .infinite _ => none
      | y => some y
  else if k ≤ 308 then some (x.scale true k)
  else if k ≤ 616 then some ((x.scale true 308).scale true (k - 308))
  else some (Binary64.zero neg)

/-- The parts of a numeral: sign, digits before and behind the point, and exponent. -/
structure Numeral where
  neg : Bool
  whole : List Char
  fraction : Option (List Char)
  exponent : Option Int

/-- The number of a numeral that has a fraction, an exponent or too many digits. -/
def Numeral.float? (n : Numeral) : Option Binary64 :=
  let fraction := n.fraction.getD []
  let (word, excess) := fillWord 0 n.whole
  let (word, dropped) := fillWord word fraction
  scaled? n.neg word (excess - (fraction.length - dropped) + n.exponent.getD 0)

/-- The value of a numeral. -/
def Numeral.value? (n : Numeral) : Option Json :=
  if n.fraction.isNone && n.exponent.isNone then
    let m := Digits.toNat n.whole
    if n.neg then
      if 0 < m ∧ Int64.minValue.toInt ≤ -m then some (.int (-m)) else n.float?.map .float
    else if m < UInt64.size then some (.int m) else n.float?.map .float
  else n.float?.map .float

/-- The digits at the front, at least one of them. -/
def digits? (s : List Char) : Option (List Char × List Char) :=
  match s.span Char.isDigit with
  | ([], _) => none
  | (ds, rest) => some (ds, rest)

/-- The digits before the point: a zero stands alone. -/
def whole? : List Char → Option (List Char × List Char)
  | '0' :: rest =>
    match rest with
    | d :: _ => if d.isDigit then none else some (['0'], rest)
    | [] => some (['0'], [])
  | s => digits? s

/-- The fraction at the front, if there is a point. -/
def fraction? : List Char → Option (Option (List Char) × List Char)
  | '.' :: rest => (digits? rest).map fun (ds, rest) => (some ds, rest)
  | s => some (none, s)

/-- The exponent at the front, if there is one. -/
def exponent? (s : List Char) : Option (Option Int × List Char) :=
  match s with
  | c :: rest =>
    if c = 'e' ∨ c = 'E' then
      let (neg, rest) := match rest with
        | '-' :: rest => (true, rest)
        | '+' :: rest => (false, rest)
        | rest => (false, rest)
      (digits? rest).map fun (ds, rest) =>
        let n : Int := Digits.toNat ds
        (some (if neg then -n else n), rest)
    else some (none, s)
  | [] => some (none, [])

/-- The numeral at the front of a text, and what follows it. -/
def numeral? (s : List Char) : Option (Numeral × List Char) := do
  let (neg, s) := match s with
    | '-' :: s => (true, s)
    | s => (false, s)
  let (whole, s) ← whole? s
  let (fraction, s) ← fraction? s
  let (exponent, s) ← exponent? s
  return (⟨neg, whole, fraction, exponent⟩, s)

/-- The number at the front of a text, and what follows it. -/
def readNumber (s : List Char) : Option (Json × List Char) := do
  let (n, s) ← numeral? s
  let v ← n.value?
  return (v, s)

end Json

end Conductor
