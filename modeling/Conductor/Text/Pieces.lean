/-!
# Joining and cutting

Texts put one after the other with something between them, and sequences cut where a separator stands.
A sequence without the separator is one piece, so there is always at least one.
-/

namespace Conductor

/-- The texts one after the other, with `sep` between any two. -/
def joined (sep : String) : List String → String
  | [] => ""
  | [s] => s
  | s :: t :: rest => s ++ sep ++ joined sep (t :: rest)

/-- The pieces of a sequence between the separators, empty ones included. -/
def pieces {α : Type} [DecidableEq α] (sep : α) : List α → List (List α)
  | [] => [[]]
  | a :: as =>
    if a = sep then [] :: pieces sep as
    else match pieces sep as with
      | [] => [[a]]
      | piece :: rest => (a :: piece) :: rest

theorem pieces_ne_nil {α : Type} [DecidableEq α] (sep : α) (as : List α) : pieces sep as ≠ [] := by
  cases as with
  | nil => simp [pieces]
  | cons a as =>
    rw [pieces]
    split
    · simp
    · split <;> simp

/-- What stands behind a separator is cut by itself. -/
theorem pieces_append_sep {α : Type} [DecidableEq α] (sep : α) (as bs : List α) :
    pieces sep (as ++ sep :: bs) = pieces sep as ++ pieces sep bs := by
  induction as with
  | nil => simp [pieces]
  | cons a as ih =>
    rw [List.cons_append, pieces, pieces, ih]
    by_cases ha : a = sep
    · simp [ha]
    · rw [if_neg ha, if_neg ha]
      cases hp : pieces sep as with
      | nil => exact absurd hp (pieces_ne_nil sep as)
      | cons piece rest => rfl

theorem pieces_of_not_mem {α : Type} [DecidableEq α] {sep : α} {as : List α} (h : sep ∉ as) :
    pieces sep as = [as] := by
  induction as with
  | nil => rfl
  | cons a as ih =>
    rw [List.mem_cons, not_or] at h
    rw [pieces, if_neg (Ne.symm h.1), ih h.2]

/-- What stands before the first separator is determined, and so is what stands behind it. -/
theorem append_sep_inj {α : Type} {sep : α} {xs ys us vs : List α} (hx : sep ∉ xs) (hy : sep ∉ ys)
    (h : xs ++ sep :: us = ys ++ sep :: vs) : xs = ys ∧ us = vs := by
  induction xs generalizing ys with
  | nil =>
    cases ys with
    | nil => exact ⟨rfl, (List.cons.inj h).2⟩
    | cons y ys => exact absurd ((List.cons.inj h).1 ▸ List.mem_cons_self) hy
  | cons x xs ih =>
    cases ys with
    | nil => exact absurd ((List.cons.inj h).1 ▸ List.mem_cons_self) hx
    | cons y ys =>
      simp only [List.cons_append, List.cons.injEq] at h
      obtain ⟨rfl, hrest⟩ := h
      obtain ⟨rfl, rfl⟩ := ih (fun hm => hx (List.mem_cons_of_mem _ hm))
        (fun hm => hy (List.mem_cons_of_mem _ hm)) hrest
      exact ⟨rfl, rfl⟩

/-- The same from the end: a sequence is determined on both sides of its last separator. -/
theorem append_sep_inj_of_last {α : Type} {sep : α} {xs ys us vs : List α} (hu : sep ∉ us) (hv : sep ∉ vs)
    (h : xs ++ sep :: us = ys ++ sep :: vs) : xs = ys ∧ us = vs := by
  have hreverse : us.reverse ++ sep :: xs.reverse = vs.reverse ++ sep :: ys.reverse := by
    simpa using congrArg List.reverse h
  obtain ⟨hus, hxs⟩ := append_sep_inj (mt List.mem_reverse.1 hu) (mt List.mem_reverse.1 hv) hreverse
  exact ⟨List.reverse_inj.1 hxs, List.reverse_inj.1 hus⟩

end Conductor
