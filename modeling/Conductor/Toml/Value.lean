import Conductor.Decimal.Layout

/-!
# TOML values

What a TOML document says, after reading: strings, integers of 64 bits, binary64 numbers, truth values,
dates and times, arrays, and tables with their keys in the order of the document.
-/

namespace Conductor.Toml

/-- A day of the calendar. -/
structure Date where
  year : Nat
  month : Nat
  day : Nat
  deriving DecidableEq, Repr

/-- A time of day; `fraction` holds the digits behind the seconds. -/
structure Time where
  hour : Nat
  minute : Nat
  second : Nat
  fraction : List Char
  deriving DecidableEq, Repr

/-- The distance of local time from universal time, in minutes. -/
structure Offset where
  minutes : Int
  deriving DecidableEq, Repr

/-- A date, a time, or both, in the latter case perhaps with an offset. -/
structure Datetime where
  date : Option Date
  time : Option Time
  offset : Option Offset
  deriving DecidableEq, Repr

inductive Value where
  | string (s : String)
  | integer (n : Int)
  | float (x : Binary64)
  | boolean (b : Bool)
  | datetime (d : Datetime)
  | array (items : List Value)
  | table (entries : List (String × Value))
  deriving Inhabited

mutual

/-- Whether two values are the same. Arrays and tables hold values themselves, so this is not derived. -/
def Value.same : Value → Value → Bool
  | .string s, .string t => s = t
  | .integer m, .integer n => m = n
  | .float x, .float y => x = y
  | .boolean b, .boolean c => b = c
  | .datetime d, .datetime e => d = e
  | .array items, .array items' => sameItems items items'
  | .table entries, .table entries' => sameEntries entries entries'
  | _, _ => false

def sameItems : List Value → List Value → Bool
  | [], [] => true
  | v :: items, v' :: items' => v.same v' && sameItems items items'
  | _, _ => false

def sameEntries : List (String × Value) → List (String × Value) → Bool
  | [], [] => true
  | (key, v) :: entries, (key', v') :: entries' =>
    decide (key = key') && v.same v' && sameEntries entries entries'
  | _, _ => false

end

mutual

theorem Value.same_iff : ∀ v w : Value, v.same w = true ↔ v = w
  | .string _, w | .integer _, w | .float _, w | .boolean _, w | .datetime _, w => by
    cases w <;> simp [Value.same]
  | .array items, w => by cases w <;> simp [Value.same, sameItems_iff items]
  | .table entries, w => by cases w <;> simp [Value.same, sameEntries_iff entries]

theorem sameItems_iff : ∀ items items' : List Value, sameItems items items' = true ↔ items = items'
  | [], items' => by cases items' <;> simp [sameItems]
  | v :: items, items' => by cases items' <;> simp [sameItems, v.same_iff, sameItems_iff items]

theorem sameEntries_iff : ∀ entries entries' : List (String × Value),
    sameEntries entries entries' = true ↔ entries = entries'
  | [], entries' => by cases entries' <;> simp [sameEntries]
  | (key, v) :: entries, entries' => by
    cases entries' with
    | nil => simp [sameEntries]
    | cons e entries' => cases e; simp [sameEntries, v.same_iff, sameEntries_iff entries]

end

instance : DecidableEq Value := fun v w => decidable_of_decidable_of_iff (v.same_iff w)

/-- How messages about TOML show numbers: always positional, and a tie goes away from zero. -/
def layout : Layout where
  plain _ := true
  tie := .away

end Conductor.Toml
