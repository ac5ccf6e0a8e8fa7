import Conductor.Toml.Value

/-!
# Building tables

A document is a sequence of statements, each of which adds to the tree of tables. Whether a table may
be added to depends on how it came about: by a header of its own, by a longer header that implied it,
or by a dotted key. Values, and the tables and arrays written as values, are closed.

* A header opens a table that is new, or one that was only implied so far; the latter then takes the
  place of the header in the order of its parent.
* A header in double brackets appends an element to an array of tables.
* A key with dots descends through tables that are implied or dotted, and makes dotted ones where there
  are none; the table that it ends in must be dotted.
-/

namespace Conductor.Toml

/-- How a table came about. -/
inductive Origin where
  /-- By a header, as the root, or as an element of an array of tables. -/
  | header
  /-- As a parent in a header. -/
  | implied
  /-- As a parent in a dotted key. -/
  | dotted
  deriving DecidableEq, Repr

/-- A node of a document that is being built. -/
inductive Item where
  | value (v : Value)
  | table (origin : Origin) (entries : List (String × Item))
  | tables (elements : List (List (String × Item)))

/-- The entries of a table, in the order of the document. -/
abbrev Entries := List (String × Item)

namespace Entries

def get? (es : Entries) (key : String) : Option Item :=
  (es.find? fun e => e.1 == key).map Prod.snd

/-- The entries with another item under a key that is there. -/
def set (es : Entries) (key : String) (item : Item) : Entries :=
  es.map fun e => if e.1 == key then (key, item) else e

def erase (es : Entries) (key : String) : Entries :=
  es.filter fun e => e.1 != key

/-- Changes the entries of the table at a path below a table, making the tables on the way that are
missing. `dotted` tells a dotted key from a header: it may not pass through a table that has a header
of its own. An array of tables stands for its last element. -/
def within (dotted : Bool) (change : Origin → Entries → Option Entries) :
    List String → Origin → Entries → Option Entries
  | [], origin, es => change origin es
  | key :: path, _, es =>
    match get? es key with
    | none => do
      let origin := if dotted then Origin.dotted else Origin.implied
      let inner ← within dotted change path origin []
      return es ++ [(key, .table origin inner)]
    | some (.table origin inner) =>
      if dotted ∧ origin = .header then none
      else do
        let inner ← within dotted change path origin inner
        return set es key (.table origin inner)
    | some (.tables elements) =>
      match elements.getLast? with
      | none => none
      | some last => do
        let last ← within dotted change path .header last
        return set es key (.tables (elements.dropLast ++ [last]))
    | some (.value _) => none

/-- Adds a value under a key of one or more parts, `parents` being all but the last one. -/
def assign (parents : List String) (key : String) (v : Value) (origin : Origin) (es : Entries) :
    Option Entries :=
  within true (fun origin es =>
    if (origin == .dotted) == parents.isEmpty then none
    else if (get? es key).isSome then none
    else some (es ++ [(key, .value v)])) parents origin es

/-- Opens the table of a header. -/
def openTable (parents : List String) (key : String) (root : Entries) : Option Entries :=
  within false (fun _ es =>
    match get? es key with
    | none => some (es ++ [(key, .table .header [])])
    | some (.table .implied inner) => some (erase es key ++ [(key, .table .header inner)])
    | some _ => none) parents .header root

/-- Appends an element to the array of tables of a header. -/
def openElement (parents : List String) (key : String) (root : Entries) : Option Entries :=
  within false (fun _ es =>
    match get? es key with
    | none => some (es ++ [(key, .tables [[]])])
    | some (.tables elements) => some (set es key (.tables (elements ++ [[]])))
    | some _ => none) parents .header root

end Entries

/-! ## The finished document -/

mutual

/-- The value of a node. -/
def Item.seal : Item → Value
  | .value v => v
  | .table _ es => .table (sealEntries es)
  | .tables elements => .array (sealElements elements)

/-- The values of the entries of a table. -/
def sealEntries : List (String × Item) → List (String × Value)
  | [] => []
  | (key, item) :: es => (key, item.seal) :: sealEntries es

/-- The values of the elements of an array of tables. -/
def sealElements : List (List (String × Item)) → List Value
  | [] => []
  | es :: elements => .table (sealEntries es) :: sealElements elements

end

end Conductor.Toml
