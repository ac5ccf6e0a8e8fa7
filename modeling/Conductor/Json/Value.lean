import Conductor.Decimal.Layout

/-!
# JSON values

A JSON document as a value. An object is the list of its members as they are written; of members with
one name the last one counts (`member?`). Integers from −2⁶³ to 2⁶⁴ − 1 are kept exactly, every other
number is a binary64 number.
-/

namespace Conductor

/-- A JSON value. -/
inductive Json where
  | null
  | bool (b : Bool)
  | int (n : Int)
  | float (x : Binary64)
  | str (s : String)
  | arr (items : List Json)
  | obj (members : List (String × Json))
  deriving Inhabited

namespace Json

/-- The value that counts for a name among the members of an object: the last one. -/
def member? (members : List (String × Json)) (name : String) : Option Json :=
  (members.reverse.find? fun m => m.1 == name).map Prod.snd

/-- A text, or `null` where there is none. -/
def optStr : Option String → Json
  | none => .null
  | some s => .str s

/-- How messages about JSON show numbers: positional from 10⁻⁵ up to below 10¹⁶, otherwise with an
exponent; a tie goes to the even digit. -/
def layout : Layout where
  plain place := -5 ≤ place && place ≤ 15
  tie := .even

end Json

end Conductor
