import Conductor.Decimal.Layout
import Conductor.Text.Pieces
import Conductor.Text.Quoted

/-!
# Values of the wrong shape

Structured values (JSON documents, TOML tables) are decoded into the types of this library. When a value
does not have the shape that is asked for, decoding stops with a `Mismatch`, which says what was found
and what was expected. `Mismatch.message` is the wording; how numbers look in it is up to the format
that the value came from.
-/

namespace Conductor

/-- What stood in a place where something else was expected. -/
inductive Found where
  | null
  | boolean (b : Bool)
  | integer (n : Int)
  | float (x : Binary64)
  | string (s : String)
  | sequence
  | map
  deriving DecidableEq, Repr

namespace Found

def describe (l : Layout) : Found → String
  | .null => "null"
  | .boolean b => "boolean `" ++ (if b then "true" else "false") ++ "`"
  | .integer n => "integer `" ++ n.repr ++ "`"
  | .float x => "floating point `" ++ l.render x ++ "`"
  | .string s => "string " ++ quoted s
  | .sequence => "sequence"
  | .map => "map"

end Found

/-- Why a value could not be decoded. -/
inductive Mismatch where
  /-- A value of another type than the expected one. -/
  | type (found : Found) (expected : String)
  /-- A value of the expected type that is out of bounds. -/
  | value (found : Found) (expected : String)
  /-- A sequence of the wrong length. -/
  | length (found : Nat) (expected : String)
  /-- A field that has to be there and is not. -/
  | missing (field : String)
  /-- A name that is none of the known ones. -/
  | variant (name : String) (known : List String)
  deriving DecidableEq, Repr

namespace Mismatch

def message (l : Layout) : Mismatch → String
  | .type found expected => "invalid type: " ++ found.describe l ++ ", expected " ++ expected
  | .value found expected => "invalid value: " ++ found.describe l ++ ", expected " ++ expected
  | .length found expected => "invalid length " ++ found.repr ++ ", expected " ++ expected
  | .missing field => "missing field `" ++ field ++ "`"
  | .variant name known =>
    "unknown variant `" ++ name ++ "`, expected one of " ++
      joined ", " (known.map fun k => "`" ++ k ++ "`")

end Mismatch

/-! ## Decoding step by step -/

section

variable {ε α β : Type}

/-- A decoding succeeds in its first step and then in the others. -/
theorem bind_eq_ok {x : Except ε α} {f : α → Except ε β} {b : β} :
    x >>= f = .ok b ↔ ∃ a, x = .ok a ∧ f a = .ok b := by
  cases x with
  | error e => simp [bind, Except.bind]
  | ok a => simp [bind, Except.bind]

theorem pure_eq_ok {a b : α} : (pure a : Except ε α) = .ok b ↔ a = b := by
  simp [pure, Except.pure]

theorem map_eq_ok {x : Except ε α} {f : α → β} {b : β} :
    x.map f = .ok b ↔ ∃ a, x = .ok a ∧ f a = b := by
  cases x with
  | error e => simp [Except.map]
  | ok a => simp [Except.map]

theorem map_eq_error {x : Except ε α} {f : α → β} {e : ε} : x.map f = .error e ↔ x = .error e := by
  cases x with
  | error e' => simp [Except.map]
  | ok a => simp [Except.map]

/-- Where the fault of an item does not depend on what was decoded before it, the fault of the whole is
that of the first item that has one. -/
theorem foldlM_eq_error {step : β → α → Except ε β} {Fault : α → ε → Prop} {as : List α}
    (h : ∀ a ∈ as, ∀ b e, step b a = .error e ↔ Fault a e) {b : β} {e : ε} :
    as.foldlM step b = .error e ↔
      ∃ before a after, as = before ++ a :: after ∧ (∀ x ∈ before, ∀ e', ¬ Fault x e') ∧ Fault a e := by
  induction as generalizing b with
  | nil => simp [pure, Except.pure]
  | cons a as ih =>
    have htail := fun b => ih (fun x hx => h x (List.mem_cons_of_mem a hx)) (b := b)
    rw [List.foldlM_cons]
    cases hstep : step b a with
    | error e' =>
      have hfault : ∀ e, Fault a e ↔ e = e' := by
        intro e
        rw [← h a List.mem_cons_self b e, hstep, Except.error.injEq, eq_comm]
      constructor
      · intro heq
        obtain rfl : e' = e := Except.error.inj heq
        exact ⟨[], a, as, rfl, by simp, (hfault e').2 rfl⟩
      · rintro ⟨before, x, after, hsplit, hbefore, hx⟩
        cases before with
        | nil =>
          obtain ⟨rfl, rfl⟩ := List.cons.inj hsplit
          obtain rfl := (hfault e).1 hx
          rfl
        | cons y before =>
          obtain ⟨rfl, -⟩ := List.cons.inj hsplit
          exact absurd ((hfault e').2 rfl) (hbefore a List.mem_cons_self e')
    | ok b' =>
      have hnone : ∀ e, ¬ Fault a e := by
        intro e hfault
        rw [← h a List.mem_cons_self b e, hstep] at hfault
        cases hfault
      show as.foldlM step b' = .error e ↔ _
      rw [htail b']
      constructor
      · rintro ⟨before, x, after, rfl, hbefore, hx⟩
        exact ⟨a :: before, x, after, rfl, List.forall_mem_cons.2 ⟨hnone, hbefore⟩, hx⟩
      · rintro ⟨before, x, after, hsplit, hbefore, hx⟩
        cases before with
        | nil =>
          obtain ⟨rfl, -⟩ := List.cons.inj hsplit
          exact absurd hx (hnone e)
        | cons y before =>
          obtain ⟨rfl, rfl⟩ := List.cons.inj hsplit
          exact ⟨before, x, after, rfl, (List.forall_mem_cons.1 hbefore).2, hx⟩

end

end Conductor
