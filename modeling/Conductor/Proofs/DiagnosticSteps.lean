import Mathlib.Data.List.DropRight
import Conductor.Diagnostic.Decode

/-!
# Diagnostics made step by step

Steps update a diagnostic in three ways: an opening throws everything away, a span or a path replaces the one
before, and a note is added behind the others. What a sequence of steps makes is read off the sequence
here without making it: the last opening, and of the steps since then the last span, the last path and
all notes (`summary`). One more step does to the summary what it does to the diagnostic
(`summary_concat`), so the two are the same (`build_eq_summary`).

The summary written down as steps again is a normal form. Every sequence makes what its normal form makes,
and two sequences make the same diagnostic only if they have the same normal form (`build_normalForm`,
`build_eq_iff`).
-/

namespace Conductor

namespace Diagnostic

/-! ## What steps say -/

/-- What a new diagnostic is begun with. -/
structure Opening where
  severity : Severity
  message : String
  help : Option String
  deriving DecidableEq, Repr

namespace Step

/-- What a step begins a new diagnostic with, if it begins one. -/
def opening? : Step → Option Opening
  | .error message => some ⟨.error, message, none⟩
  | .new severity message help => some ⟨severity, message, help⟩
  | .span _ | .path _ | .note _ => none

def span? : Step → Option Span
  | .span range => some range
  | _ => none

def path? : Step → Option String
  | .path file => some file
  | _ => none

def note? : Step → Option String
  | .note text => some text
  | _ => none

end Step

/-- The last thing of a kind that the steps say. -/
def last? {α : Type} (part : Step → Option α) (steps : List Step) : Option α :=
  (steps.filterMap part).getLast?

/-- The notes that the steps add, in order. -/
def notesOf (steps : List Step) : List String :=
  steps.filterMap Step.note?

/-- The opening in effect after the steps: the last one, or that of the empty error if there is none. -/
def opening (steps : List Step) : Opening :=
  (last? Step.opening? steps).getD ⟨.error, "", none⟩

/-- The steps since the opening in effect. -/
def current (steps : List Step) : List Step :=
  steps.rtakeWhile fun s => s.opening?.isNone

/-- What the steps amount to, field by field. -/
def summary (steps : List Step) : Diagnostic where
  severity := (opening steps).severity
  message := (opening steps).message
  help := (opening steps).help
  span := last? Step.span? (current steps)
  path := last? Step.path? (current steps)
  notes := notesOf (current steps)

/-- The shortest way to a diagnostic: one opening, at most one span and one path, and then the notes. -/
def script (d : Diagnostic) : List Step :=
  .new d.severity d.message d.help ::
    (d.span.toList.map .span ++ d.path.toList.map .path ++ d.notes.map .note)

/-- The steps without those that do not show in the end, in a fixed order. -/
def normalForm (steps : List Step) : List Step :=
  (summary steps).script

/-! ## Sequences that are put together -/

section Append

variable {α : Type} (part : Step → Option α)

@[simp] theorem last?_nil : last? part [] = none := rfl

@[simp]
theorem last?_append (xs ys : List Step) : last? part (xs ++ ys) = (last? part ys).or (last? part xs) := by
  simp [last?, List.filterMap_append, List.getLast?_append]

@[simp]
theorem last?_singleton (s : Step) : last? part [s] = part s := by
  cases h : part s <;> simp [last?, h]

@[simp] theorem notesOf_nil : notesOf [] = [] := rfl

@[simp]
theorem notesOf_append (xs ys : List Step) : notesOf (xs ++ ys) = notesOf xs ++ notesOf ys :=
  List.filterMap_append

@[simp]
theorem notesOf_singleton (s : Step) : notesOf [s] = s.note?.toList := by
  cases s <;> rfl

end Append

/-- A new opening ends what was current. -/
theorem current_concat_of_opening {s : Step} {o : Opening} (h : s.opening? = some o) (steps : List Step) :
    current (steps ++ [s]) = [] := by
  apply List.rtakeWhile_concat_neg
  simp [h]

/-- Every other step becomes the last of what is current. -/
theorem current_concat_of_none {s : Step} (h : s.opening? = none) (steps : List Step) :
    current (steps ++ [s]) = current steps ++ [s] := by
  apply List.rtakeWhile_concat_pos
  simp [h]

theorem last?_opening_of_none {steps : List Step} (h : ∀ s ∈ steps, s.opening? = none) :
    last? Step.opening? steps = none := by
  rw [last?, List.filterMap_eq_nil_iff.2 h, List.getLast?_nil]

/-- Steps without an opening leave the opening in effect. -/
theorem opening_append_of_none {ys : List Step} (h : ∀ s ∈ ys, s.opening? = none) (xs : List Step) :
    opening (xs ++ ys) = opening xs := by
  rw [opening, last?_append, last?_opening_of_none h, Option.none_or, opening]

theorem current_append_of_none {ys : List Step} (h : ∀ s ∈ ys, s.opening? = none) (xs : List Step) :
    current (xs ++ ys) = current xs ++ ys := by
  induction ys using List.reverseRecOn with
  | nil => rw [List.append_nil, List.append_nil]
  | append_singleton ys s ih =>
    have hs : s.opening? = none := h s (by simp)
    have hys : ∀ t ∈ ys, t.opening? = none := fun t ht => h t (by simp [ht])
    rw [← List.append_assoc, current_concat_of_none hs, ih hys, List.append_assoc]

/-! ## Steps and summaries -/

/-- The step: a step does to the summary what it does to the diagnostic. -/
theorem summary_concat (steps : List Step) (s : Step) : summary (steps ++ [s]) = s.apply (summary steps) := by
  cases hs : s.opening? with
  | some o =>
    -- The opening is the last one, and nothing is current behind it.
    have hcurrent := current_concat_of_opening hs steps
    have hopening : opening (steps ++ [s]) = o := by simp [opening, hs]
    cases s with
    | error message | new severity message help =>
      obtain rfl := Option.some.inj hs
      simp [summary, hcurrent, hopening, Step.apply, Diagnostic.error, Diagnostic.new]
    | span _ | path _ | note _ => cases hs
  | none =>
    have hcurrent := current_concat_of_none hs steps
    have hopening : opening (steps ++ [s]) = opening steps := by simp [opening, hs]
    cases s with
    | error _ | new _ _ _ => cases hs
    | span span =>
      simp [summary, hcurrent, hopening, Step.apply, withSpan, Step.span?, Step.path?, Step.note?]
    | path path =>
      simp [summary, hcurrent, hopening, Step.apply, withPath, Step.span?, Step.path?, Step.note?]
    | note note =>
      simp [summary, hcurrent, hopening, Step.apply, withNote, Step.span?, Step.path?, Step.note?]

/-- The run: what a sequence of steps makes is its summary. -/
theorem build_eq_summary (steps : List Step) : build steps = summary steps := by
  induction steps using List.reverseRecOn with
  | nil => rfl
  | append_singleton steps s ih =>
    have hlast : build (steps ++ [s]) = s.apply (build steps) := List.foldl_concat ..
    rw [hlast, ih, summary_concat]

/-- Steps without an opening add to what was made before. -/
theorem build_append_of_none {ys : List Step} (h : ∀ s ∈ ys, s.opening? = none) (xs : List Step) :
    build (xs ++ ys) =
      { build xs with
        span := (last? Step.span? ys).or (build xs).span
        path := (last? Step.path? ys).or (build xs).path
        notes := (build xs).notes ++ notesOf ys } := by
  rw [build_eq_summary, build_eq_summary]
  simp [summary, opening_append_of_none h, current_append_of_none h]

/-! ## Normal forms -/

theorem foldl_apply_notes (notes : List String) (d : Diagnostic) :
    (notes.map Step.note).foldl Step.apply d = { d with notes := d.notes ++ notes } := by
  induction notes generalizing d with
  | nil => simp
  | cons note notes ih =>
    rw [List.map_cons, List.foldl_cons, ih]
    simp [Step.apply, withNote]

/-- Every diagnostic can be made. -/
theorem build_script (d : Diagnostic) : build d.script = d := by
  rcases d with ⟨severity, message, help, _ | span, _ | path, notes⟩
  all_goals
    simp [build, script, foldl_apply_notes, Step.apply, Diagnostic.new, withSpan, withPath]

theorem build_normalForm (steps : List Step) : build (normalForm steps) = build steps := by
  rw [normalForm, build_script, build_eq_summary]

/-- Sequences that make the same diagnostic differ only in what the normal form leaves out. -/
theorem build_eq_iff {xs ys : List Step} : build xs = build ys ↔ normalForm xs = normalForm ys := by
  constructor
  · intro h
    rw [normalForm, normalForm, ← build_eq_summary, ← build_eq_summary, h]
  · intro h
    rw [← build_normalForm xs, h, build_normalForm]

/-- How steps without an opening are interleaved does not show. -/
theorem build_append_congr {xs ys : List Step} (hx : ∀ s ∈ xs, s.opening? = none)
    (hy : ∀ s ∈ ys, s.opening? = none) (hspan : last? Step.span? xs = last? Step.span? ys)
    (hpath : last? Step.path? xs = last? Step.path? ys) (hnotes : notesOf xs = notesOf ys)
    (common : List Step) : build (common ++ xs) = build (common ++ ys) := by
  rw [build_append_of_none hx, build_append_of_none hy, hspan, hpath, hnotes]

/-- **The steps to a diagnostic have a normal form.** Whatever the steps are, the diagnostic that they make
has the severity, the message and the help of the last opening (the empty error, if there is none), the last
span and the last path since then, if any, and the notes since then, in order. Hence

* every sequence makes the diagnostic that its normal form makes, and sequences with different normal forms
  make different diagnostics;
* after common steps, two sequences that open nothing new and have the same last span, the same last path
  and the same notes make the same diagnostic, with one text and one JSON text, however they are
  interleaved. -/
theorem steps_have_normal_form :
    (∀ steps, build steps =
      { severity := (opening steps).severity
        message := (opening steps).message
        help := (opening steps).help
        span := last? Step.span? (current steps)
        path := last? Step.path? (current steps)
        notes := notesOf (current steps) }) ∧
    (∀ steps, build (normalForm steps) = build steps) ∧
    (∀ xs ys, build xs = build ys ↔ normalForm xs = normalForm ys) ∧
    (∀ common xs ys, (∀ s ∈ xs, s.opening? = none) → (∀ s ∈ ys, s.opening? = none) →
      last? Step.span? xs = last? Step.span? ys → last? Step.path? xs = last? Step.path? ys →
      notesOf xs = notesOf ys →
        build (common ++ xs) = build (common ++ ys) ∧
        (build (common ++ xs)).toText = (build (common ++ ys)).toText ∧
        (build (common ++ xs)).toJsonText = (build (common ++ ys)).toJsonText) := by
  refine ⟨build_eq_summary, build_normalForm, fun _ _ => build_eq_iff, ?_⟩
  intro common xs ys hx hy hspan hpath hnotes
  have heq := build_append_congr hx hy hspan hpath hnotes common
  exact ⟨heq, congrArg toText heq, congrArg toJsonText heq⟩

/-- Two ways to one diagnostic. A note is lost to the opening, and a span and a path to later ones. -/
theorem sample_steps_have_normal_form :
    let common := [.note "lost", .new .warning "unused" (some "remove it"), .note "first"]
    let xs := [.span ⟨1, 1, 1, 2⟩, .note "second", .path "main.moa", .span ⟨3, 7, 3, 8⟩, .note "third"]
    let ys := [.note "second", .path "old.moa", .note "third", .span ⟨3, 7, 3, 8⟩, .path "main.moa"]
    ((∀ s ∈ xs, s.opening? = none) ∧ (∀ s ∈ ys, s.opening? = none) ∧
      last? Step.span? xs = last? Step.span? ys ∧ last? Step.path? xs = last? Step.path? ys ∧
      notesOf xs = notesOf ys) ∧
    build (common ++ xs) = ⟨.warning, "unused", some "remove it", some ⟨3, 7, 3, 8⟩, some "main.moa",
      ["first", "second", "third"]⟩ ∧
    build (common ++ ys) = build (common ++ xs) ∧
    (build (common ++ ys)).toText = (build (common ++ xs)).toText ∧
    (build (common ++ ys)).toJsonText = (build (common ++ xs)).toJsonText := by
  intro common xs ys
  have hx : ∀ s ∈ xs, s.opening? = none := by decide
  have hy : ∀ s ∈ ys, s.opening? = none := by decide
  refine ⟨⟨hx, hy, rfl, rfl, rfl⟩, rfl, ?_⟩
  exact steps_have_normal_form.2.2.2 common ys xs hy hx rfl rfl rfl

end Diagnostic

end Conductor
