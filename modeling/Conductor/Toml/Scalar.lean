import Conductor.Toml.Quotation
import Conductor.Toml.Value

/-!
# Numbers, dates and times in TOML text

Each reader takes its token off the front of a text and returns what follows. None looks at what may
follow: a token that is cut short leaves something behind that no value can be followed by.
-/

namespace Conductor.Toml

/-! ## Digits -/

/-- More digits after one: an underscore may stand between two digits. -/
def moreDigits? (isDigit : Char → Bool) : List Char → Option (List Char × List Char)
  | '_' :: d :: rest =>
    if isDigit d then (moreDigits? isDigit rest).map fun (ds, rest) => (d :: ds, rest) else none
  | d :: rest =>
    if isDigit d then (moreDigits? isDigit rest).map fun (ds, rest) => (d :: ds, rest)
    else if d = '_' then none
    else some ([], d :: rest)
  | [] => some ([], [])

/-- A run of digits, at least one, the underscores between them left out. -/
def digits? (isDigit : Char → Bool) : List Char → Option (List Char × List Char)
  | d :: rest =>
    if isDigit d then (moreDigits? isDigit rest).map fun (ds, rest) => (d :: ds, rest) else none
  | [] => none

/-! ## Numbers -/

/-- The sign at the front, if there is one: whether it is a minus. -/
def sign : List Char → Bool × List Char
  | '-' :: rest => (true, rest)
  | '+' :: rest => (false, rest)
  | s => (false, s)

/-- The digits before a point: a zero stands alone. -/
def whole? : List Char → Option (List Char × List Char)
  | '0' :: rest => some (['0'], rest)
  | s => digits? Char.isDigit s

/-- An exponent. -/
def exponent? : List Char → Option (Int × List Char)
  | c :: rest =>
    if c = 'e' ∨ c = 'E' then
      let (neg, rest) := sign rest
      (digits? Char.isDigit rest).map fun (ds, rest) =>
        (if neg then -(Digits.toNat ds : Int) else Digits.toNat ds, rest)
    else none
  | [] => none

/-- The number with that sign, digits and exponent. One above the range is refused, one below it is
the negative infinity. -/
def floatValue? (neg : Bool) (whole fraction : List Char) (exp : Int) : Option Value :=
  match Binary64.ofDecimal neg (Digits.toNat (whole ++ fraction)) (exp - fraction.length) with
  | .infinite false => none
  | x => some (.float x)

/-- A number with a fraction or an exponent, or with both. -/
def float? (s : List Char) : Option (Value × List Char) :=
  let (neg, s) := sign s
  match whole? s with
  | none => none
  | some (whole, '.' :: s) => do
    let (fraction, s) ← digits? Char.isDigit s
    let (exp, s) := (exponent? s).getD (0, s)
    let v ← floatValue? neg whole fraction exp
    return (v, s)
  | some (whole, s) => do
    let (exp, s) ← exponent? s
    let v ← floatValue? neg whole [] exp
    return (v, s)

/-- The numbers that have a name: infinity and the one that is not a number. -/
def namedFloat? (s : List Char) : Option (Value × List Char) :=
  let (neg, s) := sign s
  match s with
  | 'i' :: 'n' :: 'f' :: s => some (.float (.infinite neg), s)
  | 'n' :: 'a' :: 'n' :: s => some (.float .nan, s)
  | _ => none

/-- An integer of 64 bits. -/
def integerValue? (n : Int) : Option Value :=
  if Int64.minValue.toInt ≤ n ∧ n ≤ Int64.maxValue.toInt then some (.integer n) else none

def isHexDigit (c : Char) : Bool := (Digits.hexValue? c).isSome
def isOctalDigit (c : Char) : Bool := '0' ≤ c && c ≤ '7'
def isBinaryDigit (c : Char) : Bool := c == '0' || c == '1'

/-- An integer in another base, after the letter that tells the base. -/
def based? (base : Nat) (isDigit : Char → Bool) (s : List Char) : Option (Value × List Char) := do
  let (ds, s) ← digits? isDigit s
  let v ← integerValue? (ds.foldl (fun n d => n * base + (Digits.hexValue? d).getD 0) 0 : Nat)
  return (v, s)

def integer? : List Char → Option (Value × List Char)
  | '0' :: 'x' :: s => based? 16 isHexDigit s
  | '0' :: 'o' :: s => based? 8 isOctalDigit s
  | '0' :: 'b' :: s => based? 2 isBinaryDigit s
  | s => do
    let (neg, s) := sign s
    let (ds, s) ← whole? s
    let v ← integerValue? (if neg then -(Digits.toNat ds : Int) else Digits.toNat ds)
    return (v, s)

/-! ## Dates and times -/

/-- Exactly `n` digits. -/
def fixedDigits? (n : Nat) (s : List Char) : Option (Nat × List Char) :=
  let ds := s.take n
  if ds.length = n ∧ ds.all Char.isDigit then some (Digits.toNat ds, s.drop n) else none

/-- Two digits of a number between two bounds. -/
def twoDigits? (least greatest : Nat) (s : List Char) : Option (Nat × List Char) :=
  match fixedDigits? 2 s with
  | some (n, s) => if least ≤ n ∧ n ≤ greatest then some (n, s) else none
  | none => none

/-- The text after a character at its front. -/
def after? (c : Char) : List Char → Option (List Char)
  | d :: s => if d = c then some s else none
  | [] => none

def isLeapYear (year : Nat) : Bool :=
  year % 4 == 0 && (year % 100 != 0 || year % 400 == 0)

def daysInMonth (year month : Nat) : Nat :=
  if month = 2 then if isLeapYear year then 29 else 28
  else if month = 4 ∨ month = 6 ∨ month = 9 ∨ month = 11 then 30
  else 31

def date? (s : List Char) : Option (Date × List Char) := do
  let (year, s) ← fixedDigits? 4 s
  let s ← after? '-' s
  let (month, s) ← twoDigits? 1 12 s
  let s ← after? '-' s
  let (day, s) ← twoDigits? 1 (daysInMonth year month) s
  return (⟨year, month, day⟩, s)

/-- The digits of a fraction of a second, if there is one. -/
def secondFraction : List Char → List Char × List Char
  | '.' :: s =>
    match s.span Char.isDigit with
    | ([], _) => ([], '.' :: s)
    | (ds, s) => (ds, s)
  | s => ([], s)

def time? (s : List Char) : Option (Time × List Char) := do
  let (hour, s) ← twoDigits? 0 23 s
  let s ← after? ':' s
  let (minute, s) ← twoDigits? 0 59 s
  let s ← after? ':' s
  let (second, s) ← twoDigits? 0 60 s
  let (fraction, s) := secondFraction s
  return (⟨hour, minute, second, fraction⟩, s)

def offset? (s : List Char) : Option (Offset × List Char) :=
  match s with
  | 'Z' :: s => some (⟨0⟩, s)
  | 'z' :: s => some (⟨0⟩, s)
  | c :: s =>
    if c = '+' ∨ c = '-' then do
      let (hour, s) ← twoDigits? 0 23 s
      let s ← after? ':' s
      let (minute, s) ← twoDigits? 0 59 s
      let minutes : Int := hour * 60 + minute
      return (⟨if c = '-' then -minutes else minutes⟩, s)
    else none
  | [] => none

/-- The time after a date, behind a letter or one blank. -/
def timeAfterDate? : List Char → Option (Time × List Char)
  | c :: s => if c = 'T' ∨ c = 't' ∨ c = ' ' then time? s else none
  | [] => none

def datetime? (s : List Char) : Option (Datetime × List Char) :=
  match date? s with
  | some (date, s) =>
    match timeAfterDate? s with
    | some (time, s) =>
      match offset? s with
      | some (offset, s) => some (⟨date, time, offset⟩, s)
      | none => some (⟨date, time, none⟩, s)
    | none => some (⟨date, none, none⟩, s)
  | none => (time? s).map fun (time, s) => (⟨none, time, none⟩, s)

/-! ## Scalars -/

/-- A value that is not an array or a table. -/
def scalar? (s : List Char) : Option (Value × List Char) :=
  match s with
  | 't' :: 'r' :: 'u' :: 'e' :: s => some (.boolean true, s)
  | 'f' :: 'a' :: 'l' :: 's' :: 'e' :: s => some (.boolean false, s)
  | '"' :: _ => (string? s).map fun (t, s) => (.string t, s)
  | '\'' :: _ => (string? s).map fun (t, s) => (.string t, s)
  | s =>
    match datetime? s with
    | some (d, s) => some (.datetime d, s)
    | none => float? s <|> namedFloat? s <|> integer? s

end Conductor.Toml
