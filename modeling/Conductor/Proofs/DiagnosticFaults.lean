import Mathlib.Data.List.Perm.Basic
import Conductor.Proofs.DiagnosticForms

/-!
# The fault that is reported

A value that does not stand for a diagnostic may be wrong in many ways at once, and on two levels: a bad
value here, a missing field there, and a span inside with faults of its own. One fault is reported. Which
one is said here without the decoder, as `Json.Form` says without it what values stand for: a `Blame` relates
values to their faults, and a decoder `Reports` a blame if it refuses just these values, for just these
faults.

A fault is found by checks that are made one after the other (`FirstFault`). A `Record` is the table of the
checks of a structure: in an object the fields in the order of their names and then the missing ones in the
order of their declaration, in an array the items in the order of declaration, each of which may also be
where the array ends, and then the items too many. The tables of a span and of a diagnostic differ in their
entries only, and the span's stands in the diagnostic's.
-/

namespace Conductor

/-! ## One check after the other -/

/-- A check, as the faults that it finds. A check that is passed finds none. -/
abbrev Check := Mismatch → Prop

/-- One of the checks finds the fault, and all before it are passed. -/
def FirstFault (checks : List Check) (e : Mismatch) : Prop :=
  ∃ before check after, checks = before ++ check :: after ∧ (∀ c ∈ before, ∀ e', ¬ c e') ∧ check e

theorem not_firstFault_nil (e : Mismatch) : ¬ FirstFault [] e := by
  rintro ⟨before, check, after, hsplit, -⟩
  simp at hsplit

theorem firstFault_cons {check : Check} {checks : List Check} {e : Mismatch} :
    FirstFault (check :: checks) e ↔ check e ∨ (∀ e', ¬ check e') ∧ FirstFault checks e := by
  constructor
  · rintro ⟨before, c, after, hsplit, hbefore, hc⟩
    cases before with
    | nil =>
      obtain ⟨rfl, -⟩ := List.cons.inj hsplit
      exact Or.inl hc
    | cons b before =>
      obtain ⟨rfl, hrest⟩ := List.cons.inj hsplit
      obtain ⟨hpassed, hbefore⟩ := List.forall_mem_cons.1 hbefore
      exact Or.inr ⟨hpassed, before, c, after, hrest, hbefore, hc⟩
  · rintro (hcheck | ⟨hpassed, before, c, after, rfl, hbefore, hc⟩)
    · exact ⟨[], check, checks, rfl, by simp, hcheck⟩
    · exact ⟨check :: before, c, after, rfl, List.forall_mem_cons.2 ⟨hpassed, hbefore⟩, hc⟩

/-- A step of a decoding is a check, and the steps behind it are made only if it is passed. -/
theorem bind_eq_error_iff {α β : Type} {x : Except Mismatch α} {rest : α → Except Mismatch β} {check : Check}
    {checks : List Check} {e : Mismatch} (hx : ∀ e, x = .error e ↔ check e)
    (hrest : ∀ a, x = .ok a → (rest a = .error e ↔ FirstFault checks e)) :
    x >>= rest = .error e ↔ FirstFault (check :: checks) e := by
  rw [firstFault_cons, ← hx e]
  cases x with
  | error e' =>
    have hnot : ¬ ∀ e', ¬ check e' := fun hpassed => hpassed e' ((hx e').1 rfl)
    simp [bind, Except.bind, hnot]
  | ok a =>
    have hpassed : ∀ e', ¬ check e' := by
      intro e' he'
      cases (hx e').2 he'
    simp [bind, Except.bind, hpassed, hrest a rfl]

/-- The last step is no check. -/
theorem pure_eq_error_iff {α : Type} {a : α} {e : Mismatch} :
    (pure a : Except Mismatch α) = .error e ↔ FirstFault [] e := by
  simp [pure, Except.pure, not_firstFault_nil]

namespace Json

/-! ## Blames -/

/-- Which values are at fault, and how. -/
abbrev Blame := Json → Check

/-- The decoder refuses exactly the values at fault, and says how they are. -/
def Reports {α : Type} (decode : Decoder α) (blame : Blame) : Prop :=
  ∀ v e, decode v = .error e ↔ blame v e

/-- Everything but a string is no text. -/
def NoText : Blame :=
  fun v e => (∀ s, v ≠ .str s) ∧ e = .type v.found "a string"

/-- An integer may be out of bounds; everything else is of the wrong type. -/
inductive NoCount : Blame
  | bounds {k : Int} (h : k < 0 ∨ 18446744073709551615 < k) : NoCount (.int k) (.value (.integer k) "usize")
  | type {v : Json} (h : ∀ k, v ≠ .int k) : NoCount v (.type v.found "usize")

/-- What is not `null` may be at fault. -/
def UnlessNull (blame : Blame) : Blame :=
  fun v e => v ≠ .null ∧ blame v e

/-- The first item at fault is the fault of an array; everything else is of the wrong type. -/
inductive NoList (blame : Blame) : Blame
  | item {items : List Json} {e : Mismatch} (h : FirstFault (items.map blame) e) : NoList blame (.arr items) e
  | type {v : Json} (h : ∀ items, v ≠ .arr items) : NoList blame v (.type v.found "a sequence")

theorem reports_string : Reports decodeString NoText := by
  intro v e
  cases v <;> simp [decodeString, NoText, eq_comm]

theorem reports_unsigned : Reports decodeUnsigned NoCount := by
  intro v e
  constructor
  · intro h
    cases v with
    | int k =>
      have hsize : (UInt64.size : Int) = 18446744073709551616 := rfl
      simp only [decodeUnsigned, hsize] at h
      split_ifs at h with hneg hlt
      · obtain rfl := Except.error.inj h
        exact .bounds (Or.inl hneg)
      · obtain rfl := Except.error.inj h
        exact .bounds (Or.inr (by omega))
    | _ =>
      obtain rfl := Except.error.inj h
      exact .type (by simp)
  · rintro (⟨hout⟩ | ⟨hint⟩)
    · next k =>
      have hsize : (UInt64.size : Int) = 18446744073709551616 := rfl
      simp only [decodeUnsigned, hsize]
      split_ifs with hneg hlt
      · rfl
      · omega
      · rfl
    · cases v with
      | int k => exact absurd rfl (hint k)
      | _ => rfl

theorem Reports.unlessNull {α : Type} {decode : Decoder α} {blame : Blame} (h : Reports decode blame) :
    Reports (decodeOption decode) (UnlessNull blame) := by
  intro v e
  by_cases hv : v = .null
  · subst hv
    simp [decodeOption, UnlessNull]
  · have hdecode : decodeOption decode v = (decode v).map some := by
      cases v with
      | null => exact absurd rfl hv
      | _ => rfl
    rw [hdecode, map_eq_error, h v]
    simp [UnlessNull, hv]

theorem Reports.items {α : Type} {decode : Decoder α} {blame : Blame} (h : Reports decode blame)
    (items : List Json) (e : Mismatch) :
    decodeItems decode items = .error e ↔ FirstFault (items.map blame) e := by
  induction items with
  | nil => exact pure_eq_error_iff
  | cons v vs ih =>
    refine bind_eq_error_iff (h v) fun a _ => ?_
    rw [← ih]
    -- The item in front is put back only after the others are decoded.
    cases decodeItems decode vs <;> simp [bind, Except.bind, pure, Except.pure]

theorem Reports.list {α : Type} {decode : Decoder α} {blame : Blame} (h : Reports decode blame) :
    Reports (decodeList decode) (NoList blame) := by
  intro v e
  constructor
  · intro hv
    cases v with
    | arr items => exact .item ((h.items items e).1 hv)
    | _ =>
      obtain rfl := Except.error.inj hv
      exact .type (by simp)
  · rintro (hitem | harray)
    · exact (h.items _ e).2 hitem
    · cases v with
      | arr items => exact absurd rfl (harray items)
      | _ => rfl

/-! ## Records -/

/-- The checks of a structure, in the orders in which they are made. -/
structure Record where
  /-- What is asked for where there is neither an object nor an array. -/
  name : String
  /-- What is asked for where an array ends too early. -/
  whole : String
  /-- The fields of an object, as they are looked at. -/
  visited : List (String × Blame)
  /-- The fields that an object has to have, as they are missed. -/
  required : List String
  /-- The items of an array. -/
  declared : List Blame
  /-- How many items an array has to have. -/
  least : Nat

namespace Record

/-- The object has the field, and its value is at fault. -/
def badMember (members : List (String × Json)) (field : String × Blame) : Check :=
  fun e => ∃ v, Holds members field.1 v ∧ field.2 v e

/-- The object does not have the field. -/
def missingMember (members : List (String × Json)) (name : String) : Check :=
  fun e => Lacks members name ∧ e = .missing name

/-- The array has an item at the place, which is at fault, or it ends there and must not. -/
def badItem (r : Record) (items : List Json) (place : Blame × Nat) : Check :=
  fun e => (∃ v, items[place.2]? = some v ∧ place.1 v e) ∨
    place.2 < r.least ∧ items.length = place.2 ∧ e = .length items.length r.whole

/-- The array has more items than there are fields. -/
def surplus (r : Record) (items : List Json) : Check :=
  fun e => r.declared.length < items.length ∧ e = .length items.length "fewer elements in array"

/-- In an object, a missing field counts only after all that are there. -/
def objectChecks (r : Record) (members : List (String × Json)) : List Check :=
  r.visited.map (badMember members) ++ r.required.map (missingMember members)

/-- In an array, superfluous items count only after all the others. -/
def arrayChecks (r : Record) (items : List Json) : List Check :=
  r.declared.zipIdx.map (r.badItem items) ++ [r.surplus items]

/-- The faults of a value that should be the structure. -/
inductive Refuses (r : Record) : Blame
  | object {members : List (String × Json)} {e : Mismatch} (h : FirstFault (r.objectChecks members) e) :
      Refuses r (.obj members) e
  | array {items : List Json} {e : Mismatch} (h : FirstFault (r.arrayChecks items) e) :
      Refuses r (.arr items) e
  | type {v : Json} (hobject : ∀ members, v ≠ .obj members) (harray : ∀ items, v ≠ .arr items) :
      Refuses r v (.type v.found r.name)

/-- A decoder that treats the two shapes apart reports what it reports of each of them. -/
theorem reports_of_shapes {α : Type} {r : Record} {decode : Decoder α}
    (hobject : ∀ members e, decode (.obj members) = .error e ↔ FirstFault (r.objectChecks members) e)
    (harray : ∀ items e, decode (.arr items) = .error e ↔ FirstFault (r.arrayChecks items) e)
    (hother : ∀ v, (∀ members, v ≠ .obj members) → (∀ items, v ≠ .arr items) →
      decode v = .error (.type v.found r.name)) : Reports decode r.Refuses := by
  intro v e
  constructor
  · intro hv
    cases v with
    | obj members => exact .object ((hobject members e).1 hv)
    | arr items => exact .array ((harray items e).1 hv)
    | _ =>
      rw [hother _ (by simp) (by simp)] at hv
      obtain rfl := Except.error.inj hv
      exact .type (by simp) (by simp)
  · rintro (h | h | ⟨hno, hno'⟩)
    · exact (hobject _ e).2 h
    · exact (harray _ e).2 h
    · exact hother v hno hno'

end Record

section Steps

variable {α : Type} {decode : Decoder α} {blame : Blame} {members : List (String × Json)} {name : String}
  {items : List Json} {i : Nat}

/-- To decode a member is the check of its field. -/
theorem Reports.member (h : Reports decode blame) (e : Mismatch) :
    decodeMember members name decode = .error e ↔ Record.badMember members (name, blame) e := by
  unfold decodeMember Record.badMember
  cases hm : member? members name with
  | none =>
    have hlacks := member?_eq_none_iff.1 hm
    simp only [reduceCtorEq, false_iff]
    rintro ⟨v, hv, -⟩
    exact hv.not_lacks hlacks
  | some v =>
    have hholds := member?_eq_some_iff.1 hm
    rw [map_eq_error, h v]
    constructor
    · intro hv
      exact ⟨v, hholds, hv⟩
    · rintro ⟨v', hv', hblame⟩
      rwa [hholds.unique hv']

theorem decodeMember_eq_ok_none (h : decodeMember members name decode = .ok none) : Lacks members name := by
  unfold decodeMember at h
  cases hm : member? members name with
  | none => exact member?_eq_none_iff.1 hm
  | some v =>
    rw [hm] at h
    obtain ⟨a, -, ha⟩ := map_eq_ok.1 h
    cases ha

theorem decodeMember_eq_ok_some {a : α} (h : decodeMember members name decode = .ok (some a)) :
    ¬ Lacks members name := by
  unfold decodeMember at h
  cases hm : member? members name with
  | none =>
    rw [hm] at h
    cases h
  | some v => exact (member?_eq_some_iff.1 hm).not_lacks

/-- To ask for a member that was decoded if it is there is the check that it is. -/
theorem required_eq_error {o : Option α} (h : decodeMember members name decode = .ok o) (e : Mismatch) :
    required name o = .error e ↔ Record.missingMember members name e := by
  unfold Record.missingMember
  cases o with
  | none => simp [required, decodeMember_eq_ok_none h, eq_comm]
  | some a => simp [required, decodeMember_eq_ok_some h]

/-- To decode an item is the check of its place, if the array is known to go that far. -/
theorem Reports.item {r : Record} (h : Reports decode blame) (hleast : i < r.least)
    (hi : i ≤ items.length) (e : Mismatch) :
    decodeItem items i r.whole decode = .error e ↔ r.badItem items (blame, i) e := by
  unfold decodeItem Record.badItem
  cases hv : items[i]? with
  | none =>
    have hlength : items.length = i := Nat.le_antisymm (List.getElem?_eq_none_iff.1 hv) hi
    simp [hleast, hlength, eq_comm]
  | some v =>
    have hlength : items.length ≠ i := by
      rintro rfl
      simp at hv
    simp [h v, hlength]

theorem lt_length_of_decodeItem {whole : String} {a : α} (h : decodeItem items i whole decode = .ok a) :
    i < items.length := by
  obtain ⟨v, hv, -⟩ := decodeItem_eq_ok.1 h
  exact (List.getElem?_eq_some_iff.1 hv).1

theorem noMoreThan_eq_error {r : Record} (e : Mismatch) :
    noMoreThan r.declared.length items = .error e ↔ r.surplus items e := by
  unfold noMoreThan Record.surplus
  split_ifs with hle
  · simp [Nat.not_lt.2 hle]
  · simp [Nat.not_le.1 hle, eq_comm]

end Steps

/-! ## What does not matter -/

/-- Two objects have the same values under those names. -/
def AgreeOn (names : List String) (members members' : List (String × Json)) : Prop :=
  ∀ name ∈ names, ∀ v, Holds members name v ↔ Holds members' name v

theorem agreeOn_iff {names : List String} {members members' : List (String × Json)} :
    AgreeOn names members members' ↔
      ∀ name ∈ names, Json.member? members name = Json.member? members' name := by
  unfold AgreeOn
  simp only [← member?_eq_some_iff, ← Option.ext_iff]

theorem AgreeOn.symm {names : List String} {members members' : List (String × Json)}
    (h : AgreeOn names members members') : AgreeOn names members' members :=
  fun name hname v => (h name hname v).symm

theorem AgreeOn.badMember {names : List String} {members members' : List (String × Json)}
    (h : AgreeOn names members members') {field : String × Blame} (hname : field.1 ∈ names) {e : Mismatch}
    (hbad : Record.badMember members field e) : Record.badMember members' field e := by
  obtain ⟨v, hv, hblame⟩ := hbad
  exact ⟨v, (h field.1 hname v).1 hv, hblame⟩

/-- Where no name stands twice, an object has the values that stand in it. -/
theorem holds_iff_mem {members : List (String × Json)} (h : (members.map Prod.fst).Nodup) {name : String}
    {v : Json} : Holds members name v ↔ (name, v) ∈ members := by
  constructor
  · rintro ⟨before, after, rfl, -⟩
    exact List.mem_append_right before List.mem_cons_self
  · intro hmem
    obtain ⟨before, after, rfl⟩ := List.append_of_mem hmem
    refine ⟨before, after, rfl, ?_⟩
    intro m hm heq
    rw [List.map_append, List.map_cons] at h
    have hname : name ∈ after.map Prod.fst := List.mem_map.2 ⟨m, hm, heq⟩
    exact (List.nodup_cons.1 (List.nodup_append.1 h).2.1).1 hname

theorem agreeOn_of_perm {members members' : List (String × Json)} (hnodup : (members.map Prod.fst).Nodup)
    (hperm : members.Perm members') (names : List String) : AgreeOn names members members' := by
  intro name _ v
  rw [holds_iff_mem hnodup, holds_iff_mem ((hperm.map Prod.fst).nodup_iff.1 hnodup)]
  exact hperm.mem_iff

/-- Where a value stands for which another would be decoded alike, the other could stand as well. -/
theorem decodeMember_replace {α : Type} {decode : Decoder α} {key name : String} {v v' : Json}
    (h : name = key → decode v = decode v') (before after : List (String × Json)) :
    decodeMember (before ++ (key, v) :: after) name decode =
      decodeMember (before ++ (key, v') :: after) name decode := by
  have hsplit : ∀ u, Json.member? (before ++ (key, u) :: after) name =
      (Json.member? after name).or (if key = name then some u else Json.member? before name) := by
    intro u
    unfold Json.member?
    by_cases hkey : key = name <;>
      cases hafter : after.reverse.find? fun m => m.1 == name <;> simp [hkey, hafter, List.find?_append]
  unfold decodeMember
  rw [hsplit, hsplit]
  cases Json.member? after name with
  | some u => rfl
  | none =>
    by_cases hkey : key = name
    · simp [hkey, h hkey.symm]
    · simp [hkey]

/-- What a record says about a decoder: which fault it reports, and what its result does not depend on. -/
structure Record.DeterminesErrors {α : Type} (r : Record) (decode : Decoder α) : Prop where
  /-- The values that are refused are those of which a check finds a fault, and the first one is reported. -/
  reports : Reports decode r.Refuses
  /-- The order in which the members of an object are written does not matter. -/
  reordered : ∀ members members', (members.map Prod.fst).Nodup → members.Perm members' →
    decode (.obj members) = decode (.obj members')
  /-- Members with other names than those of the fields do not matter. -/
  unknown : ∀ members members', AgreeOn (r.visited.map Prod.fst) members members' →
    decode (.obj members) = decode (.obj members')
  /-- Nothing in the fields behind the first bad one matters, nor whether they are there. -/
  later : ∀ before field after, r.visited = before ++ field :: after → ∀ members members' e,
    (∀ f ∈ before, ∀ e', ¬ badMember members f e') → badMember members field e →
    AgreeOn ((before ++ [field]).map Prod.fst) members members' → decode (.obj members') = .error e

/-- Only that the fields alone count is a matter of the decoder. -/
theorem Record.DeterminesErrors.of_reports {α : Type} {r : Record} {decode : Decoder α}
    (hreports : Reports decode r.Refuses)
    (hunknown : ∀ members members', AgreeOn (r.visited.map Prod.fst) members members' →
      decode (.obj members) = decode (.obj members')) : r.DeterminesErrors decode where
  reports := hreports
  reordered := fun members members' hnodup hperm =>
    hunknown members members' (agreeOn_of_perm hnodup hperm _)
  unknown := hunknown
  later := by
    intro before field after hvisited members members' e hbefore hbad hagree
    refine (hreports _ e).2 (.object ?_)
    refine ⟨before.map (badMember members'), badMember members' field,
      after.map (badMember members') ++ r.required.map (missingMember members'), ?_, ?_, ?_⟩
    · simp [objectChecks, hvisited]
    · intro check hcheck e' he'
      obtain ⟨f, hf, rfl⟩ := List.mem_map.1 hcheck
      have hname : f.1 ∈ (before ++ [field]).map Prod.fst :=
        List.mem_map_of_mem (List.mem_append_left [field] hf)
      exact hbefore f hf e' (hagree.symm.badMember hname he')
    · exact hagree.badMember (List.mem_map_of_mem (by simp)) hbad

end Json

/-! ## Severities -/

namespace Severity

/-- The name is none of the known ones. -/
def unknownName (name : String) : Check :=
  fun e => name ∉ ["error", "warning", "note"] ∧ e = .variant name ["error", "warning", "note"]

/-- Under the name of a severity nothing but `null` can stand. -/
def NotNull : Json.Blame :=
  fun v e => v ≠ .null ∧ e = .type v.found "unit"

/-- The object has one name, whether its members are one or several. -/
def OneName (members : List (String × Json)) (name : String) : Prop :=
  members ≠ [] ∧ ∀ m ∈ members, m.1 = name

/-- A name may be unknown, as a string or as the only name of an object; then the value under the name is
looked at. An object with more names or none is a fault of its own. -/
inductive Refuses : Json.Blame
  | word {name : String} {e : Mismatch} (h : unknownName name e) : Refuses (.str name) e
  | key {name : String} {members : List (String × Json)} {e : Mismatch} (hname : OneName members name)
      (h : FirstFault [unknownName name, Json.Record.badMember members (name, NotNull)] e) :
      Refuses (.obj members) e
  | keys {members : List (String × Json)} (h : ∀ name, ¬ OneName members name) :
      Refuses (.obj members) (.value .map "map with a single key")
  | type {v : Json} (hstring : ∀ s, v ≠ .str s) (hobject : ∀ members, v ≠ .obj members) :
      Refuses v (.type v.found "string or map")

theorem OneName.unique {members : List (String × Json)} {name name' : String} (h : OneName members name)
    (h' : OneName members name') : name = name' := by
  obtain ⟨m, ms, rfl⟩ := List.exists_cons_of_ne_nil h.1
  rw [← h.2 m List.mem_cons_self, h'.2 m List.mem_cons_self]

theorem ofJsonName_eq_error {name : String} (e : Mismatch) : ofJsonName name = .error e ↔ unknownName name e := by
  have hnames : names = ["error", "warning", "note"] := rfl
  have hknown : name ∈ ["error", "warning", "note"] ↔ ∃ s, (name, s) ∈ words := by
    simp only [words, List.mem_cons, List.not_mem_nil, or_false, Prod.mk.injEq]
    constructor
    · rintro (rfl | rfl | rfl)
      · exact ⟨.error, Or.inl ⟨rfl, rfl⟩⟩
      · exact ⟨.warning, Or.inr (Or.inl ⟨rfl, rfl⟩)⟩
      · exact ⟨.note, Or.inr (Or.inr ⟨rfl, rfl⟩)⟩
    · rintro ⟨s, hs⟩
      exact hs.imp And.left (Or.imp And.left And.left)
  unfold unknownName
  rw [hknown]
  simp only [← ofJsonName_eq_ok]
  unfold ofJsonName
  cases ofName? name with
  | none => simp [hnames, eq_comm]
  | some s => simp

/-- In an object with one name, that name is looked at, and then what stands under it. -/
theorem ofJson_of_oneName {members : List (String × Json)} {name : String} (h : OneName members name)
    (e : Mismatch) : ofJson (.obj members) = .error e ↔
      FirstFault [unknownName name, Json.Record.badMember members (name, NotNull)] e := by
  simp only [ofJson, eraseDups_eq_singleton.2 h]
  refine bind_eq_error_iff ofJsonName_eq_error fun s _ => ?_
  rw [firstFault_cons, or_iff_left (fun hnil => not_firstFault_nil e hnil.2)]
  unfold Json.Record.badMember
  cases hv : Json.member? members name with
  | none =>
    have hlacks := Json.member?_eq_none_iff.1 hv
    simp only [pure, Except.pure, reduceCtorEq, false_iff]
    rintro ⟨v, hholds, -⟩
    exact hholds.not_lacks hlacks
  | some v =>
    have hholds := Json.member?_eq_some_iff.1 hv
    have hiff : (∃ u, Json.Holds members name u ∧ NotNull u e) ↔ NotNull v e := by
      constructor
      · rintro ⟨u, hu, hnot⟩
        exact hholds.unique hu ▸ hnot
      · intro hnot
        exact ⟨v, hholds, hnot⟩
    rw [hiff]
    cases v with
    | null => simp [NotNull, pure, Except.pure]
    | _ => simp [NotNull, eq_comm]

theorem ofJson_of_notOneName {members : List (String × Json)} (h : ∀ name, ¬ OneName members name) :
    ofJson (.obj members) = .error (.value .map "map with a single key") := by
  simp only [ofJson]
  split
  · next name hname => exact absurd (eraseDups_eq_singleton.1 hname) (h name)
  · rfl

theorem reports : Json.Reports ofJson Refuses := by
  intro v e
  constructor
  · intro hv
    cases v with
    | str name => exact .word ((ofJsonName_eq_error e).1 hv)
    | obj members =>
      by_cases hname : ∃ name, OneName members name
      · obtain ⟨name, hname⟩ := hname
        exact .key hname ((ofJson_of_oneName hname e).1 hv)
      · have hnone : ∀ name, ¬ OneName members name := fun name h => hname ⟨name, h⟩
        obtain rfl := Except.error.inj ((ofJson_of_notOneName hnone).symm.trans hv)
        exact .keys hnone
    | _ =>
      obtain rfl := Except.error.inj hv
      exact .type (by simp) (by simp)
  · intro hv
    cases hv with
    | word h => exact (ofJsonName_eq_error e).2 h
    | key hname h => exact (ofJson_of_oneName hname e).2 h
    | keys h => exact ofJson_of_notOneName h
    | type hstring hobject =>
      cases v with
      | str s => exact absurd rfl (hstring s)
      | obj members => exact absurd rfl (hobject members)
      | _ => rfl

end Severity

/-! ## Spans -/

namespace Span

/-- The checks of a span. -/
def record : Json.Record where
  name := "struct Span"
  whole := "struct Span with 4 elements"
  visited := [("end_col", Json.NoCount), ("end_line", Json.NoCount), ("start_col", Json.NoCount),
    ("start_line", Json.NoCount)]
  required := ["start_line", "start_col", "end_line", "end_col"]
  declared := [Json.NoCount, Json.NoCount, Json.NoCount, Json.NoCount]
  least := 4

theorem ofMembers_eq_error (members : List (String × Json)) (e : Mismatch) :
    ofMembers members = .error e ↔ FirstFault (record.objectChecks members) e := by
  unfold ofMembers
  refine bind_eq_error_iff Json.reports_unsigned.member fun endCol hendCol => ?_
  refine bind_eq_error_iff Json.reports_unsigned.member fun endLine hendLine => ?_
  refine bind_eq_error_iff Json.reports_unsigned.member fun startCol hstartCol => ?_
  refine bind_eq_error_iff Json.reports_unsigned.member fun startLine hstartLine => ?_
  refine bind_eq_error_iff (Json.required_eq_error hstartLine) fun _ _ => ?_
  refine bind_eq_error_iff (Json.required_eq_error hstartCol) fun _ _ => ?_
  refine bind_eq_error_iff (Json.required_eq_error hendLine) fun _ _ => ?_
  refine bind_eq_error_iff (Json.required_eq_error hendCol) fun _ _ => ?_
  exact pure_eq_error_iff

theorem ofItems_eq_error (items : List Json) (e : Mismatch) :
    ofItems items = .error e ↔ FirstFault (record.arrayChecks items) e := by
  have hzero : 0 ≤ items.length := Nat.zero_le _
  unfold ofItems
  refine bind_eq_error_iff (Json.reports_unsigned.item (r := record) (by decide) hzero) fun _ h => ?_
  -- Each item that is decoded is one more that the array is known to have.
  replace h := Json.lt_length_of_decodeItem h
  refine bind_eq_error_iff (Json.reports_unsigned.item (r := record) (by decide) h) fun _ h => ?_
  replace h := Json.lt_length_of_decodeItem h
  refine bind_eq_error_iff (Json.reports_unsigned.item (r := record) (by decide) h) fun _ h => ?_
  replace h := Json.lt_length_of_decodeItem h
  refine bind_eq_error_iff (Json.reports_unsigned.item (r := record) (by decide) h) fun _ _ => ?_
  refine bind_eq_error_iff (Json.noMoreThan_eq_error (r := record)) fun _ _ => ?_
  exact pure_eq_error_iff

theorem reports : Json.Reports ofJson record.Refuses := by
  refine Json.Record.reports_of_shapes ofMembers_eq_error ofItems_eq_error ?_
  intro v hobject harray
  cases v with
  | obj members => exact absurd rfl (hobject members)
  | arr items => exact absurd rfl (harray items)
  | _ => rfl

theorem determinesErrors : record.DeterminesErrors ofJson := by
  refine .of_reports reports ?_
  intro members members' hagree
  have hmember := Json.agreeOn_iff.1 hagree
  simp only [record, List.map_cons, List.map_nil, List.forall_mem_cons] at hmember
  obtain ⟨hendCol, hendLine, hstartCol, hstartLine, -⟩ := hmember
  simp only [ofJson, ofMembers, Json.decodeMember, hendCol, hendLine, hstartCol, hstartLine]

end Span

/-! ## Diagnostics -/

namespace Diagnostic

/-- The checks of a diagnostic. An array may end before the notes. -/
def record : Json.Record where
  name := "struct Diagnostic"
  whole := "struct Diagnostic with 6 elements"
  visited := [("help", Json.UnlessNull Json.NoText), ("message", Json.NoText),
    ("notes", Json.NoList Json.NoText), ("path", Json.UnlessNull Json.NoText),
    ("severity", Severity.Refuses), ("span", Json.UnlessNull Span.record.Refuses)]
  required := ["severity", "message"]
  declared := [Severity.Refuses, Json.NoText, Json.UnlessNull Json.NoText,
    Json.UnlessNull Span.record.Refuses, Json.UnlessNull Json.NoText, Json.NoList Json.NoText]
  least := 5

theorem ofMembers_eq_error (members : List (String × Json)) (e : Mismatch) :
    ofMembers members = .error e ↔ FirstFault (record.objectChecks members) e := by
  unfold ofMembers
  refine bind_eq_error_iff Json.reports_string.unlessNull.member fun help hhelp => ?_
  refine bind_eq_error_iff Json.reports_string.member fun message hmessage => ?_
  refine bind_eq_error_iff Json.reports_string.list.member fun notes hnotes => ?_
  refine bind_eq_error_iff Json.reports_string.unlessNull.member fun path hpath => ?_
  refine bind_eq_error_iff Severity.reports.member fun severity hseverity => ?_
  refine bind_eq_error_iff Span.reports.unlessNull.member fun span hspan => ?_
  refine bind_eq_error_iff (Json.required_eq_error hseverity) fun _ _ => ?_
  refine bind_eq_error_iff (Json.required_eq_error hmessage) fun _ _ => ?_
  exact pure_eq_error_iff

/-- The notes are the one field without which an array may end. -/
theorem notes_eq_error {items : List Json} (e : Mismatch) :
    (if items.length ≤ 5 then pure []
      else Json.decodeItem items 5 record.whole (Json.decodeList Json.decodeString)) = .error e ↔
      record.badItem items (Json.NoList Json.NoText, 5) e := by
  have hleast : ¬ 5 < record.least := by decide
  unfold Json.Record.badItem
  split_ifs with hle
  · have hnone : items[5]? = none := List.getElem?_eq_none hle
    simp [hnone, hleast, pure, Except.pure]
  · obtain ⟨v, hv⟩ : ∃ v, items[5]? = some v := ⟨_, List.getElem?_eq_getElem (Nat.not_le.1 hle)⟩
    simp only [Json.decodeItem, hv, Option.some.injEq, exists_eq_left', hleast, false_and, or_false]
    exact Json.reports_string.list v e

theorem ofItems_eq_error (items : List Json) (e : Mismatch) :
    ofItems items = .error e ↔ FirstFault (record.arrayChecks items) e := by
  have hzero : 0 ≤ items.length := Nat.zero_le _
  -- The rest of the decoding stands behind both cases of the notes.
  have hjoin : ∀ rest : List String → Except Mismatch Diagnostic,
      (if items.length ≤ 5 then pure [] >>= rest
        else Json.decodeItem items 5 record.whole (Json.decodeList Json.decodeString) >>= rest) =
      (if items.length ≤ 5 then pure []
        else Json.decodeItem items 5 record.whole (Json.decodeList Json.decodeString)) >>= rest := by
    intro rest
    split_ifs <;> rfl
  unfold ofItems
  refine bind_eq_error_iff (Severity.reports.item (r := record) (by decide) hzero) fun _ h => ?_
  replace h := Json.lt_length_of_decodeItem h
  refine bind_eq_error_iff (Json.reports_string.item (r := record) (by decide) h) fun _ h => ?_
  replace h := Json.lt_length_of_decodeItem h
  refine bind_eq_error_iff (Json.reports_string.unlessNull.item (r := record) (by decide) h) fun _ h => ?_
  replace h := Json.lt_length_of_decodeItem h
  refine bind_eq_error_iff (Span.reports.unlessNull.item (r := record) (by decide) h) fun _ h => ?_
  replace h := Json.lt_length_of_decodeItem h
  refine bind_eq_error_iff (Json.reports_string.unlessNull.item (r := record) (by decide) h) fun _ _ => ?_
  refine Iff.trans (Eq.congr_left (hjoin _)) ?_
  refine bind_eq_error_iff notes_eq_error fun _ _ => ?_
  refine bind_eq_error_iff (Json.noMoreThan_eq_error (r := record)) fun _ _ => ?_
  exact pure_eq_error_iff

theorem reports : Json.Reports ofJson record.Refuses := by
  refine Json.Record.reports_of_shapes ofMembers_eq_error ofItems_eq_error ?_
  intro v hobject harray
  cases v with
  | obj members => exact absurd rfl (hobject members)
  | arr items => exact absurd rfl (harray items)
  | _ => rfl

theorem determinesErrors : record.DeterminesErrors ofJson := by
  refine .of_reports reports ?_
  intro members members' hagree
  have hmember := Json.agreeOn_iff.1 hagree
  simp only [record, List.map_cons, List.map_nil, List.forall_mem_cons] at hmember
  obtain ⟨hhelp, hmessage, hnotes, hpath, hseverity, hspan, -⟩ := hmember
  simp only [ofJson, ofMembers, Json.decodeMember, hhelp, hmessage, hnotes, hpath, hseverity, hspan]

/-- Inside a diagnostic, only what a span is decoded as matters. -/
theorem ofJson_nested {members members' : List (String × Json)}
    (h : Span.ofJson (.obj members) = Span.ofJson (.obj members')) :
    (∀ before after, ofJson (.obj (before ++ ("span", .obj members) :: after)) =
      ofJson (.obj (before ++ ("span", .obj members') :: after))) ∧
    ∀ a b c rest, ofJson (.arr (a :: b :: c :: .obj members :: rest)) =
      ofJson (.arr (a :: b :: c :: .obj members' :: rest)) := by
  have hoption : Json.decodeOption Span.ofJson (.obj members) =
      Json.decodeOption Span.ofJson (.obj members') := congrArg (Except.map some) h
  constructor
  · intro before after
    have hother : ∀ {α : Type} (decode : Json.Decoder α) (name : String), name ≠ "span" →
        Json.decodeMember (before ++ ("span", .obj members) :: after) name decode =
          Json.decodeMember (before ++ ("span", .obj members') :: after) name decode :=
      fun decode name hname => Json.decodeMember_replace (fun hspan => absurd hspan hname) before after
    simp only [ofJson, ofMembers]
    rw [hother _ "help" (by decide), hother _ "message" (by decide), hother _ "notes" (by decide),
      hother _ "path" (by decide), hother _ "severity" (by decide),
      Json.decodeMember_replace (fun _ => hoption) before after]
  · intro a b c rest
    simp only [ofJson, ofItems, Json.decodeItem, Json.noMoreThan, List.length_cons,
      List.getElem?_cons_zero, List.getElem?_cons_succ, hoption]

end Diagnostic

/-- **Which fault is reported.** For every value that is not decoded as a diagnostic:

* of an object it is the fault of the first bad value in the order help, message, notes, path, severity, span,
  and only if all these are good where they are there, a missing field, the severity before the message;
* of an array it is the fault of the first bad item in the order of the fields, or of its length if it ends
  before that, and that there are too many items only if all six are good;
* so it hangs neither on the order in which the members of an object are written nor on unknown ones, and not on
  anything in the fields behind the first bad one.

The same holds of a span, with its own orders, and of a span inside a diagnostic. -/
theorem first_fault_reported :
    Diagnostic.record.DeterminesErrors Diagnostic.ofJson ∧ Span.record.DeterminesErrors Span.ofJson ∧
    ∀ members members', Span.ofJson (.obj members) = Span.ofJson (.obj members') →
      (∀ before after, Diagnostic.ofJson (.obj (before ++ ("span", .obj members) :: after)) =
        Diagnostic.ofJson (.obj (before ++ ("span", .obj members') :: after))) ∧
      ∀ a b c rest, Diagnostic.ofJson (.arr (a :: b :: c :: .obj members :: rest)) =
        Diagnostic.ofJson (.arr (a :: b :: c :: .obj members' :: rest)) :=
  ⟨Diagnostic.determinesErrors, Span.determinesErrors, fun _ _ h => Diagnostic.ofJson_nested h⟩

/-- An object with a bad message, a bad severity, an unknown member and a span that is bad twice. -/
def Sample.spoiled : List (String × Json) :=
  [("span", .obj [("end_line", .int (-1)), ("end_col", .str "x")]), ("severity", .str "fatal"),
    ("colour", .bool true), ("message", .null)]

/-- The message comes first, whatever is in the fields behind it. A span with two faults has one that comes
first, in whichever order they are written and also inside a diagnostic. -/
theorem sample_first_fault_reported :
    Diagnostic.ofJson (.obj [("message", .null)]) = .error (.type .null "a string") ∧
    Diagnostic.ofJson (.obj Sample.spoiled) = .error (.type .null "a string") ∧
    Span.ofJson (.obj [("end_line", .int (-1)), ("end_col", .str "x")]) =
      Span.ofJson (.obj [("end_col", .str "x"), ("end_line", .int (-1))]) ∧
    Diagnostic.ofJson (.obj [("message", .str "m"), ("span", .obj [("end_line", .int (-1)),
      ("end_col", .str "x")])]) = .error (.type (.string "x") "usize") := by
  obtain ⟨hdiagnostic, hspan, hnested⟩ := first_fault_reported
  have hbare : Diagnostic.ofJson (.obj [("message", .null)]) = .error (.type .null "a string") := by
    decide +kernel
  have hspoiled := hdiagnostic.later [("help", Json.UnlessNull Json.NoText)] ("message", Json.NoText) _ rfl
    [("message", .null)] Sample.spoiled (.type .null "a string")
    (by
      intro f hf e' hbad
      obtain rfl := List.mem_singleton.1 hf
      obtain ⟨v, hv, -⟩ := hbad
      exact hv.not_lacks (Json.member?_eq_none_iff.1 rfl))
    ⟨.null, Json.member?_eq_some_iff.1 rfl, by simp, rfl⟩
    (Json.agreeOn_iff.2 (by
      intro name hname
      simp only [List.mem_map, List.mem_append, List.mem_singleton] at hname
      obtain ⟨f, rfl | rfl, rfl⟩ := hname
      all_goals rfl))
  have hswap := hspan.reordered [("end_line", .int (-1)), ("end_col", .str "x")]
    [("end_col", .str "x"), ("end_line", .int (-1))] (by decide) (List.Perm.swap ..)
  refine ⟨hbare, hspoiled, hswap, ?_⟩
  exact ((hnested _ _ hswap).1 [("message", .str "m")] []).trans (by decide +kernel)

end Conductor
