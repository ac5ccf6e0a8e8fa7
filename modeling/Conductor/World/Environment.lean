import Conductor.Text.Utf8

/-!
# Environment variables

The variables of a process: names with values, which are octets and need not be text. A name has at
most one value.
-/

namespace Conductor

/-- The variables of a process. -/
structure Environment where
  bindings : List (String × Bytes)
  deriving DecidableEq, Repr

namespace Environment

def empty : Environment := ⟨[]⟩

def get? (e : Environment) (name : String) : Option Bytes :=
  (e.bindings.find? fun v => v.1 == name).map Prod.snd

/-- The value of a variable, if it is text; a value that is not counts as absent. -/
def text? (e : Environment) (name : String) : Option String :=
  (e.get? name).bind Utf8.decode?

def unset (e : Environment) (name : String) : Environment :=
  ⟨e.bindings.filter fun v => v.1 != name⟩

def set (e : Environment) (name : String) (value : Bytes) : Environment :=
  ⟨(e.unset name).bindings ++ [(name, value)]⟩

/-- Unsetting a variable takes away its value and no other. -/
@[simp]
theorem get?_unset (e : Environment) (name other : String) :
    (e.unset name).get? other = if other = name then none else e.get? other := by
  unfold get? unset
  rw [List.find?_filter]
  split
  · next h =>
    subst h
    rw [List.find?_eq_none.2 (by simp)]
    rfl
  · next h =>
    congr 2
    funext v
    by_cases hv : v.1 = other
    · simp [hv, h]
    · simp [hv]

/-- Setting a variable gives it its value and changes no other. -/
@[simp]
theorem get?_set (e : Environment) (name other : String) (value : Bytes) :
    (e.set name value).get? other = if other = name then some value else e.get? other := by
  have hu := get?_unset e name other
  unfold get? at hu ⊢
  unfold set
  rw [List.find?_append]
  split
  · next h =>
    subst h
    rw [if_pos rfl, Option.map_eq_none_iff] at hu
    simp [hu]
  · next h =>
    rw [if_neg h] at hu
    rw [← hu]
    have hne : ((name : String) == other) = false := by
      simpa using fun hc : name = other => h hc.symm
    cases (e.unset name).bindings.find? fun v => v.1 == other <;> simp [hne]

/-- The environment with the given variables set, the last of equal names winning. -/
def setAll (e : Environment) (vars : List (String × String)) : Environment :=
  vars.foldl (fun e v => e.set v.1 (Utf8.encode v.2)) e

end Environment

end Conductor
