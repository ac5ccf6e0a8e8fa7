import Mathlib.Data.List.Nodup
import Conductor.Toml.Document

/-!
# Every key once

A TOML document says nothing twice: in each of its tables, also in those within arrays and inline tables, a
key stands for one value. A `Value` with that property is `Unambiguous`, and `read?_unambiguous` says that
what is read always is.

The tables of a document grow statement by statement. The property is carried by the tree that is being built
(`Item.Unambiguous`): all changes to it go through `Entries.within`, so there is one lemma about the way down
to the table that is changed (`within_unambiguous`) and one about each change at its end.
-/

namespace Conductor

namespace Toml

/-- No key stands twice. -/
def Distinct {α : Type} (entries : List (String × α)) : Prop :=
  (entries.map Prod.fst).Nodup

theorem distinct_cons {α : Type} {e : String × α} {es : List (String × α)} :
    Distinct (e :: es) ↔ (∀ x ∈ es, x.1 ≠ e.1) ∧ Distinct es := by
  have hnot : e.1 ∉ es.map Prod.fst ↔ ∀ x ∈ es, x.1 ≠ e.1 := by
    rw [List.mem_map]
    exact not_exists.trans (forall_congr' fun x => not_and)
  unfold Distinct
  rw [List.map_cons, List.nodup_cons, hnot]

/-- A new key can be added at the end. -/
theorem Distinct.concat {α : Type} {es : List (String × α)} (h : Distinct es) {key : String}
    (hkey : ∀ e ∈ es, e.1 ≠ key) (a : α) : Distinct (es ++ [(key, a)]) := by
  unfold Distinct at *
  rw [List.map_append, List.map_cons, List.map_nil, ← List.concat_eq_append]
  refine h.concat ?_
  intro hmem
  obtain ⟨e, he, heq⟩ := List.mem_map.1 hmem
  exact hkey e he heq

/-- Every table in the value has each of its keys once. -/
inductive Value.Unambiguous : Value → Prop
  | string (s : String) : Unambiguous (.string s)
  | integer (n : Int) : Unambiguous (.integer n)
  | float (x : Binary64) : Unambiguous (.float x)
  | boolean (b : Bool) : Unambiguous (.boolean b)
  | datetime (d : Datetime) : Unambiguous (.datetime d)
  | array (items : List Value) (h : ∀ v ∈ items, Unambiguous v) : Unambiguous (.array items)
  | table (entries : List (String × Value)) (hkeys : Distinct entries)
      (h : ∀ e ∈ entries, Unambiguous e.2) : Unambiguous (.table entries)

/-- The same of the tree of a document that is being built. -/
inductive Item.Unambiguous : Item → Prop
  | value (v : Value) (h : v.Unambiguous) : Unambiguous (.value v)
  | table (origin : Origin) (es : Entries) (hkeys : Distinct es) (h : ∀ e ∈ es, Unambiguous e.2) :
      Unambiguous (.table origin es)
  | tables (elements : List Entries) (hkeys : ∀ es ∈ elements, Distinct es)
      (h : ∀ es ∈ elements, ∀ e ∈ es, Unambiguous e.2) : Unambiguous (.tables elements)

/-! ## Building tables -/

namespace Entries

/-- The entries of a table in a tree without ambiguity. -/
def Unambiguous (es : Entries) : Prop :=
  Distinct es ∧ ∀ e ∈ es, e.2.Unambiguous

theorem unambiguous_nil : Unambiguous [] :=
  ⟨List.nodup_nil, by simp⟩

theorem get?_eq_none_iff {es : Entries} {key : String} : es.get? key = none ↔ ∀ e ∈ es, e.1 ≠ key := by
  simp [get?]

theorem Unambiguous.of_get? {es : Entries} (h : es.Unambiguous) {key : String} {item : Item}
    (hget : es.get? key = some item) : item.Unambiguous := by
  obtain ⟨e, he, rfl⟩ := Option.map_eq_some_iff.1 hget
  exact h.2 e (List.mem_of_find?_eq_some he)

theorem Unambiguous.concat {es : Entries} (h : es.Unambiguous) {key : String}
    (hkey : ∀ e ∈ es, e.1 ≠ key) {item : Item} (hitem : item.Unambiguous) :
    Unambiguous (es ++ [(key, item)]) := by
  refine ⟨h.1.concat hkey item, ?_⟩
  intro e he
  rcases List.mem_append.1 he with he | he
  · exact h.2 e he
  · obtain rfl := List.mem_singleton.1 he
    exact hitem

theorem Unambiguous.set {es : Entries} (h : es.Unambiguous) (key : String) {item : Item}
    (hitem : item.Unambiguous) : Unambiguous (es.set key item) := by
  constructor
  · have hkeys : (es.set key item).map Prod.fst = es.map Prod.fst := by
      unfold Entries.set
      rw [List.map_map]
      apply List.map_congr_left
      intro e he
      by_cases hk : e.1 = key <;> simp [hk]
    unfold Distinct
    rw [hkeys]
    exact h.1
  · intro e he
    obtain ⟨x, hx, rfl⟩ := List.mem_map.1 he
    by_cases hk : x.1 = key
    · simpa [hk] using hitem
    · simpa [hk] using h.2 x hx

theorem Unambiguous.erase {es : Entries} (h : es.Unambiguous) (key : String) :
    Unambiguous (es.erase key) :=
  ⟨h.1.sublist (List.filter_sublist.map Prod.fst), fun e he => h.2 e (List.mem_filter.1 he).1⟩

/-- The way down to a table leaves no ambiguity if the change to that table does not. -/
theorem within_unambiguous {dotted : Bool} {change : Origin → Entries → Option Entries}
    (hchange : ∀ origin es es', change origin es = some es' → es.Unambiguous → es'.Unambiguous)
    (path : List String) {origin : Origin} {es es' : Entries}
    (h : within dotted change path origin es = some es') (hes : es.Unambiguous) : es'.Unambiguous := by
  induction path generalizing origin es es' with
  | nil => exact hchange origin es es' h hes
  | cons key path ih =>
    rw [within] at h
    split at h
    · next hnone =>
      obtain ⟨inner, hinner, heq⟩ := Option.bind_eq_some_iff.1 h
      obtain rfl := Option.some.inj heq
      have hin := ih hinner unambiguous_nil
      exact hes.concat (get?_eq_none_iff.1 hnone) (.table _ inner hin.1 hin.2)
    · next origin' inner hsome =>
      split at h
      · cases h
      · obtain ⟨inner', hinner, heq⟩ := Option.bind_eq_some_iff.1 h
        obtain rfl := Option.some.inj heq
        cases hes.of_get? hsome with
        | table _ _ hkeys hitems =>
          have hin := ih hinner ⟨hkeys, hitems⟩
          exact hes.set key (.table origin' inner' hin.1 hin.2)
    · next elements hsome =>
      split at h
      · cases h
      · next last hlast =>
        obtain ⟨last', hinner, heq⟩ := Option.bind_eq_some_iff.1 h
        obtain rfl := Option.some.inj heq
        cases hes.of_get? hsome with
        | tables _ hkeys hitems =>
          have hmem : last ∈ elements := List.mem_of_getLast? hlast
          have hin := ih hinner ⟨hkeys last hmem, hitems last hmem⟩
          -- Every element but the last is as before.
          have hall : ∀ es ∈ elements.dropLast ++ [last'], Unambiguous es := by
            intro es hmem
            rcases List.mem_append.1 hmem with hmem | hmem
            · have hold := (List.dropLast_sublist elements).mem hmem
              exact ⟨hkeys es hold, hitems es hold⟩
            · obtain rfl := List.mem_singleton.1 hmem
              exact hin
          exact hes.set key (.tables _ (fun es hmem => (hall es hmem).1) fun es hmem => (hall es hmem).2)
    · cases h

theorem assign_unambiguous {parents : List String} {key : String} {v : Value} {origin : Origin}
    {es es' : Entries} (h : es.assign parents key v origin = some es') (hv : v.Unambiguous)
    (hes : es.Unambiguous) : es'.Unambiguous := by
  refine within_unambiguous ?_ parents h hes
  intro origin es es' h hes
  split at h
  · cases h
  split at h
  · cases h
  next hnew =>
    obtain rfl := Option.some.inj h
    exact hes.concat (get?_eq_none_iff.1 (by simpa using hnew)) (.value v hv)

theorem openTable_unambiguous {parents : List String} {key : String} {root root' : Entries}
    (h : root.openTable parents key = some root') (hroot : root.Unambiguous) : root'.Unambiguous := by
  refine within_unambiguous ?_ parents h hroot
  intro origin es es' h hes
  split at h
  · next hnone =>
    obtain rfl := Option.some.inj h
    exact hes.concat (get?_eq_none_iff.1 hnone) (.table _ [] List.nodup_nil (by simp))
  · next inner hsome =>
    obtain rfl := Option.some.inj h
    cases hes.of_get? hsome with
    | table _ _ hkeys hitems =>
      refine (hes.erase key).concat ?_ (.table _ inner hkeys hitems)
      intro e he
      simpa using (List.mem_filter.1 he).2
  · cases h

theorem openElement_unambiguous {parents : List String} {key : String} {root root' : Entries}
    (h : root.openElement parents key = some root') (hroot : root.Unambiguous) :
    root'.Unambiguous := by
  refine within_unambiguous ?_ parents h hroot
  intro origin es es' h hes
  split at h
  · next hnone =>
    obtain rfl := Option.some.inj h
    exact hes.concat (get?_eq_none_iff.1 hnone) (.tables [[]] (by simp [Distinct]) (by simp))
  · next elements hsome =>
    obtain rfl := Option.some.inj h
    cases hes.of_get? hsome with
    | tables _ hkeys hitems =>
      have hall : ∀ es ∈ elements ++ [[]], Unambiguous es := by
        intro es hmem
        rcases List.mem_append.1 hmem with hmem | hmem
        · exact ⟨hkeys es hmem, hitems es hmem⟩
        · obtain rfl := List.mem_singleton.1 hmem
          exact unambiguous_nil
      exact hes.set key (.tables _ (fun es hmem => (hall es hmem).1) fun es hmem => (hall es hmem).2)
  · cases h

end Entries

/-! ## The finished document -/

theorem sealEntries_eq_map (es : Entries) : sealEntries es = es.map fun e => (e.1, e.2.seal) := by
  induction es with
  | nil => rw [sealEntries, List.map_nil]
  | cons e es ih => rw [sealEntries, List.map_cons, ih]

theorem sealElements_eq_map (elements : List Entries) :
    sealElements elements = elements.map fun es => .table (sealEntries es) := by
  induction elements with
  | nil => rw [sealElements, List.map_nil]
  | cons es elements ih => rw [sealElements, List.map_cons, ih]

theorem unambiguous_sealEntries {es : Entries} (hkeys : Distinct es)
    (h : ∀ e ∈ es, e.2.seal.Unambiguous) : (Value.table (sealEntries es)).Unambiguous := by
  rw [sealEntries_eq_map]
  refine .table _ ?_ ?_
  · unfold Distinct
    rw [List.map_map]
    exact hkeys
  · intro e he
    obtain ⟨x, hx, rfl⟩ := List.mem_map.1 he
    exact h x hx

theorem Item.Unambiguous.seal {item : Item} (h : item.Unambiguous) : item.seal.Unambiguous := by
  induction h with
  | value v h =>
    rw [Item.seal]
    exact h
  | table origin es hkeys _ ih =>
    rw [Item.seal]
    exact unambiguous_sealEntries hkeys ih
  | tables elements hkeys _ ih =>
    rw [Item.seal, sealElements_eq_map]
    refine .array _ ?_
    intro v hv
    obtain ⟨es, hes, rfl⟩ := List.mem_map.1 hv
    exact unambiguous_sealEntries (hkeys es hes) (ih es hes)

theorem Entries.Unambiguous.seal {es : Entries} (h : es.Unambiguous) :
    (Value.table (sealEntries es)).Unambiguous :=
  unambiguous_sealEntries h.1 fun e he => (h.2 e he).seal

/-! ## Reading -/

/-- A reader of values without ambiguity. -/
def Reader.Careful (read : Reader) : Prop :=
  ∀ s v rest, read s = some (v, rest) → v.Unambiguous

/-- What every step of a fold keeps, the fold keeps. -/
theorem foldlM_keeps {σ α : Type} {P : σ → Prop} {Q : α → Prop} {step : σ → α → Option σ}
    (hstep : ∀ s a s', step s a = some s' → Q a → P s → P s') {as : List α} {s s' : σ}
    (h : as.foldlM step s = some s') (has : ∀ a ∈ as, Q a) (hs : P s) : P s' := by
  induction as generalizing s with
  | nil =>
    obtain rfl := Option.some.inj h
    exact hs
  | cons a as ih =>
    rw [List.foldlM_cons] at h
    obtain ⟨mid, hmid, hrest⟩ := Option.bind_eq_some_iff.1 h
    have hmid := hstep s a mid hmid (has a List.mem_cons_self) hs
    exact ih hrest (fun x hx => has x (List.mem_cons_of_mem a hx)) hmid

theorem floatValue?_unambiguous {neg : Bool} {whole fraction : List Char} {exp : Int} {v : Value}
    (h : floatValue? neg whole fraction exp = some v) : v.Unambiguous := by
  unfold floatValue? at h
  split at h
  · cases h
  · obtain rfl := Option.some.inj h
    exact .float _

theorem integerValue?_unambiguous {n : Int} {v : Value} (h : integerValue? n = some v) :
    v.Unambiguous := by
  unfold integerValue? at h
  split at h
  · obtain rfl := Option.some.inj h
    exact .integer n
  · cases h

theorem careful_float? : Reader.Careful float? := by
  intro s v rest h
  unfold float? at h
  dsimp only at h
  split at h
  · cases h
  · simp only [bind, Option.bind_eq_some_iff, pure, Option.some.injEq] at h
    obtain ⟨_, -, _, hv, heq⟩ := h
    cases heq
    exact floatValue?_unambiguous hv
  · simp only [bind, Option.bind_eq_some_iff, pure, Option.some.injEq] at h
    obtain ⟨_, -, _, hv, heq⟩ := h
    cases heq
    exact floatValue?_unambiguous hv

theorem careful_namedFloat? : Reader.Careful namedFloat? := by
  intro s v rest h
  unfold namedFloat? at h
  dsimp only at h
  split at h
  · cases h
    exact .float _
  · cases h
    exact .float _
  · cases h

theorem careful_based? (base : Nat) (isDigit : Char → Bool) : Reader.Careful (based? base isDigit) := by
  intro s v rest h
  simp only [based?, bind, Option.bind_eq_some_iff, pure, Option.some.injEq] at h
  obtain ⟨_, -, _, hv, heq⟩ := h
  cases heq
  exact integerValue?_unambiguous hv

theorem careful_integer? : Reader.Careful integer? := by
  intro s v rest h
  unfold integer? at h
  split at h
  · exact careful_based? _ _ _ v rest h
  · exact careful_based? _ _ _ v rest h
  · exact careful_based? _ _ _ v rest h
  · simp only [bind, Option.bind_eq_some_iff, pure, Option.some.injEq] at h
    obtain ⟨_, -, _, hv, heq⟩ := h
    cases heq
    exact integerValue?_unambiguous hv

theorem careful_scalar? : Reader.Careful scalar? := by
  intro s v rest h
  unfold scalar? at h
  split at h
  · cases h
    exact .boolean true
  · cases h
    exact .boolean false
  · obtain ⟨_, -, heq⟩ := Option.map_eq_some_iff.1 h
    cases heq
    exact .string _
  · obtain ⟨_, -, heq⟩ := Option.map_eq_some_iff.1 h
    cases heq
    exact .string _
  · split at h
    · cases h
      exact .datetime _
    · -- The readers of numbers are tried one after the other.
      rcases Option.or_eq_some_iff.1 ((Option.orElse_eq_or ..).symm.trans h) with h | ⟨-, h⟩
      · exact careful_float? _ v rest h
      rcases Option.or_eq_some_iff.1 ((Option.orElse_eq_or ..).symm.trans h) with h | ⟨-, h⟩
      · exact careful_namedFloat? _ v rest h
      · exact careful_integer? _ v rest h

theorem items?_unambiguous {read : Reader} (hread : read.Careful) {fuel : Nat} {s rest : List Char}
    {vs : List Value} (h : items? read fuel s = some (vs, rest)) : ∀ v ∈ vs, v.Unambiguous := by
  induction fuel generalizing s vs with
  | zero => cases h
  | succ fuel ih =>
    rw [items?] at h
    split at h
    · cases h
    · cases h
      simp
    · split at h
      · cases h
      · next v s' hv =>
        have hfirst := hread _ v s' hv
        split at h
        · obtain ⟨⟨vs', rest'⟩, hitems, heq⟩ := Option.map_eq_some_iff.1 h
          cases heq
          exact List.forall_mem_cons.2 ⟨hfirst, ih hitems⟩
        · cases h
          simpa using hfirst
        · cases h

theorem pair?_unambiguous {read : Reader} (hread : read.Careful) {s rest : List Char} {key : Key}
    {v : Value} (h : pair? read s = some ((key, v), rest)) : v.Unambiguous := by
  unfold pair? at h
  split at h
  · split at h
    · next v' s' hv =>
      cases h
      exact hread _ v s' hv
    · cases h
  · cases h

theorem pairs?_unambiguous {read : Reader} (hread : read.Careful) {fuel : Nat} {s rest : List Char}
    {ps : List (Key × Value)} (h : pairs? read fuel s = some (ps, rest)) :
    ∀ p ∈ ps, p.2.Unambiguous := by
  induction fuel generalizing s ps with
  | zero => cases h
  | succ fuel ih =>
    rw [pairs?] at h
    split at h
    · next p s' hp =>
      obtain ⟨⟨ps', rest'⟩, hpairs, heq⟩ := Option.map_eq_some_iff.1 h
      cases heq
      exact List.forall_mem_cons.2 ⟨pair?_unambiguous hread hp, ih hpairs⟩
    · next p s' hp =>
      cases h
      simpa using pair?_unambiguous hread hp
    · cases h

theorem inlineTable?_unambiguous {ps : List (Key × Value)} (hps : ∀ p ∈ ps, p.2.Unambiguous) {v : Value}
    (h : inlineTable? ps = some v) : v.Unambiguous := by
  obtain ⟨es, hes, rfl⟩ := Option.map_eq_some_iff.1 h
  have hstep : ∀ (es : Entries) (p : Key × Value) (es' : Entries),
      es.assign p.1.parents p.1.last p.2 .header = some es' → p.2.Unambiguous → es.Unambiguous →
        es'.Unambiguous :=
    fun _ _ _ h hp hes => Entries.assign_unambiguous h hp hes
  exact (foldlM_keeps hstep hes hps Entries.unambiguous_nil).seal

theorem careful_value? (depth : Nat) : Reader.Careful (value? depth) := by
  induction depth with
  | zero =>
    intro s v rest h
    unfold value? at h
    split at h
    · cases h
    · cases h
    · exact careful_scalar? _ v rest h
  | succ depth ih =>
    intro s v rest h
    unfold value? at h
    split at h
    · obtain ⟨⟨vs, rest'⟩, hitems, heq⟩ := Option.map_eq_some_iff.1 h
      cases heq
      exact .array vs (items?_unambiguous ih hitems)
    · split at h
      · cases h
        exact .table [] List.nodup_nil (by simp)
      · simp only [bind, Option.bind_eq_some_iff, pure, Option.some.injEq] at h
        obtain ⟨⟨ps, rest'⟩, hpairs, v', hv', heq⟩ := h
        cases heq
        exact inlineTable?_unambiguous (pairs?_unambiguous ih hpairs) hv'
    · exact careful_scalar? _ v rest h

/-- The value of a statement, if it has one, has no ambiguity. -/
def Statement.Unambiguous (st : Statement) : Prop :=
  ∀ key v, st = .pair key v → v.Unambiguous

theorem statement?_unambiguous {s rest : List Char} {st : Statement}
    (h : statement? s = some (st, rest)) : st.Unambiguous := by
  rintro key v rfl
  unfold statement? at h
  split at h
  · split at h
    · obtain ⟨_, -, heq⟩ := Option.map_eq_some_iff.1 h
      cases heq
    · cases h
  · split at h
    · obtain ⟨_, -, heq⟩ := Option.map_eq_some_iff.1 h
      cases heq
    · cases h
  · split at h
    · next hpair =>
      obtain ⟨_, -, heq⟩ := Option.map_eq_some_iff.1 h
      cases heq
      exact pair?_unambiguous (careful_value? depthLimit) hpair
    · cases h

theorem statements?_unambiguous {fuel : Nat} {s : List Char} {sts : List Statement}
    (h : statements? fuel s = some sts) : ∀ st ∈ sts, st.Unambiguous := by
  induction fuel generalizing s sts with
  | zero => cases h
  | succ fuel ih =>
    rw [statements?] at h
    split at h
    · cases h
      simp
    · obtain ⟨s', -, hs'⟩ := Option.bind_eq_some_iff.1 h
      exact ih hs'
    · split at h
      · exact ih h
      · split at h
        · next st s' hst =>
          obtain ⟨sts', hsts', heq⟩ := Option.map_eq_some_iff.1 h
          cases heq
          exact List.forall_mem_cons.2 ⟨statement?_unambiguous hst, ih hsts'⟩
        · cases h

theorem Draft.add_unambiguous (d : Draft) (st : Statement) (d' : Draft) (h : d.add st = some d')
    (hst : st.Unambiguous) (hd : d.root.Unambiguous) : d'.root.Unambiguous := by
  cases st with
  | table key =>
    obtain ⟨root, hroot, rfl⟩ := Option.map_eq_some_iff.1 h
    exact Entries.openTable_unambiguous hroot hd
  | element key =>
    obtain ⟨root, hroot, rfl⟩ := Option.map_eq_some_iff.1 h
    exact Entries.openElement_unambiguous hroot hd
  | pair key v =>
    obtain ⟨root, hroot, rfl⟩ := Option.map_eq_some_iff.1 h
    refine Entries.within_unambiguous ?_ d.current hroot hd
    intro _ es es' hassign hes
    exact Entries.assign_unambiguous hassign (hst key v rfl) hes

/-- **A document says nothing twice.** Every table of a document that is read has each of its keys once. -/
theorem read?_unambiguous {s : String} {entries : List (String × Value)}
    (h : read? s = some entries) : (Value.table entries).Unambiguous := by
  obtain ⟨sts, hsts, hassemble⟩ := Option.bind_eq_some_iff.1 h
  obtain ⟨d, hd, rfl⟩ := Option.map_eq_some_iff.1 hassemble
  have hroot := foldlM_keeps Draft.add_unambiguous hd (statements?_unambiguous hsts)
    Entries.unambiguous_nil
  exact hroot.seal

end Toml

end Conductor
