import Mathlib.Data.List.Forall2
import Conductor.Diagnostic.Decode

/-!
# The forms of a diagnostic

Which JSON values stand for a diagnostic, said without the decoder: a `Form` relates values to what they
stand for, and `Diagnostic.Shown` is built from the forms of texts, counts, severities and spans. There are
two shapes, the object and the array, and they treat absence differently. A field that may be missing from
the object has to be there in the array as `null`; the notes are the exception, they may be missing from
both and be `null` in neither.

A decoder `Decides` a form if it accepts exactly the values of the form, and as what they stand for. Each
layer of decoding has its lemma, and `diagnostic_forms` puts them together.
-/

namespace Conductor

namespace Json

/-! ## Members -/

/-- The object has that value under the name. Of several members with the name the last one counts. -/
def Holds (members : List (String × Json)) (name : String) (v : Json) : Prop :=
  ∃ before after, members = before ++ (name, v) :: after ∧ ∀ m ∈ after, m.1 ≠ name

/-- The object has no member with the name. -/
def Lacks (members : List (String × Json)) (name : String) : Prop :=
  ∀ m ∈ members, m.1 ≠ name

theorem member?_eq_some_iff {members : List (String × Json)} {name : String} {v : Json} :
    member? members name = some v ↔ Holds members name v := by
  unfold member? Holds
  rw [Option.map_eq_some_iff]
  constructor
  · rintro ⟨⟨key, v⟩, hfind, rfl⟩
    obtain ⟨hkey, after, before, hsplit, hafter⟩ := List.find?_eq_some_iff_append.1 hfind
    obtain rfl : key = name := by simpa using hkey
    refine ⟨before.reverse, after.reverse, ?_, ?_⟩
    · rw [← List.reverse_reverse members, hsplit]
      simp
    · intro m hm
      simpa using hafter m (List.mem_reverse.1 hm)
  · rintro ⟨before, after, rfl, hafter⟩
    refine ⟨(name, v), List.find?_eq_some_iff_append.2 ⟨by simp, after.reverse, before.reverse, ?_, ?_⟩, rfl⟩
    · simp
    · intro m hm
      simpa using hafter m (List.mem_reverse.1 hm)

theorem member?_eq_none_iff {members : List (String × Json)} {name : String} :
    member? members name = none ↔ Lacks members name := by
  unfold member? Lacks
  rw [Option.map_eq_none_iff, List.find?_eq_none]
  simp

theorem Holds.unique {members : List (String × Json)} {name : String} {v v' : Json}
    (h : Holds members name v) (h' : Holds members name v') : v = v' :=
  Option.some.inj ((member?_eq_some_iff.2 h).symm.trans (member?_eq_some_iff.2 h'))

theorem Holds.not_lacks {members : List (String × Json)} {name : String} {v : Json}
    (h : Holds members name v) : ¬ Lacks members name := by
  obtain ⟨before, after, rfl, -⟩ := h
  intro hlacks
  exact hlacks (name, v) (List.mem_append_right before List.mem_cons_self) rfl

/-! ## Forms -/

/-- Which values stand for what. -/
abbrev Form (α : Type) := Json → α → Prop

/-- The object has a member of the form under the name. -/
def Has {α : Type} (members : List (String × Json)) (name : String) (form : Form α) (a : α) : Prop :=
  ∃ v, Holds members name v ∧ form v a

/-- The object has a member of the form under the name, or none, which stands for `absent`. -/
def MayHave {α : Type} (members : List (String × Json)) (name : String) (form : Form α) (absent a : α) :
    Prop :=
  Has members name form a ∨ Lacks members name ∧ a = absent

/-- A string stands for the text in it. -/
def IsText : Form String :=
  fun v s => v = .str s

/-- An integer from 0 to 2⁶⁴ − 1 stands for itself. -/
def IsCount : Form UInt64 :=
  fun v n => ∃ k : Int, v = .int k ∧ 0 ≤ k ∧ k ≤ 18446744073709551615 ∧ (n.toNat : Int) = k

/-- `null` stands for nothing. -/
def OrNull {α : Type} (form : Form α) : Form (Option α)
  | v, none => v = .null
  | v, some a => form v a

/-- An array stands for the list of what its items stand for. -/
def ListOf {α : Type} (form : Form α) : Form (List α) :=
  fun v as => ∃ items, v = .arr items ∧ List.Forall₂ form items as

theorem Holds.has_iff {α : Type} {members : List (String × Json)} {name : String} {v : Json}
    (h : Holds members name v) {form : Form α} {a : α} : Has members name form a ↔ form v a := by
  constructor
  · rintro ⟨v', hv', hform⟩
    rwa [h.unique hv']
  · intro hform
    exact ⟨v, h, hform⟩

theorem Holds.mayHave_iff {α : Type} {members : List (String × Json)} {name : String} {v : Json}
    (h : Holds members name v) {form : Form α} {absent a : α} :
    MayHave members name form absent a ↔ form v a := by
  unfold MayHave
  rw [h.has_iff]
  exact or_iff_left fun hlacks => h.not_lacks hlacks.1

/-! ## Decoders -/

/-- The decoder accepts exactly the values of the form, as what they stand for. -/
def Decides {α : Type} (decode : Decoder α) (form : Form α) : Prop :=
  ∀ v a, decode v = .ok a ↔ form v a

theorem decides_string : Decides decodeString IsText := by
  intro v s
  cases v <;> simp [decodeString, IsText]

theorem decides_unsigned : Decides decodeUnsigned IsCount := by
  intro v n
  cases v with
  | int k =>
    have hsize : (UInt64.size : Int) = 18446744073709551616 := rfl
    simp only [decodeUnsigned, IsCount, Json.int.injEq, exists_eq_left', hsize]
    by_cases hneg : k < 0
    · rw [if_pos hneg]
      simp only [reduceCtorEq, false_iff]
      omega
    rw [if_neg hneg]
    by_cases hlt : k < 18446744073709551616
    · have hnat : (UInt64.ofNat k.toNat).toNat = k.toNat := UInt64.toNat_ofNat_of_lt (by omega)
      rw [if_pos hlt, Except.ok.injEq, ← UInt64.toNat_inj, hnat]
      omega
    · rw [if_neg hlt]
      simp only [reduceCtorEq, false_iff]
      omega
  | _ => simp [decodeUnsigned, IsCount]

/-- Where `null` stands for nothing, it has to stand for nothing else. -/
theorem Decides.orNull {α : Type} {decode : Decoder α} {form : Form α} (h : Decides decode form)
    (hnull : ∀ a, ¬ form .null a) : Decides (decodeOption decode) (OrNull form) := by
  intro v o
  by_cases hv : v = .null
  · subst hv
    cases o with
    | none => simp [decodeOption, OrNull]
    | some a => simp [decodeOption, OrNull, hnull]
  · have hdecode : decodeOption decode v = (decode v).map some := by
      cases v with
      | null => exact absurd rfl hv
      | _ => rfl
    rw [hdecode, map_eq_ok]
    cases o with
    | none => simp [OrNull, hv]
    | some a => simp [OrNull, h v]

theorem Decides.items {α : Type} {decode : Decoder α} {form : Form α} (h : Decides decode form)
    (items : List Json) (as : List α) : decodeItems decode items = .ok as ↔ List.Forall₂ form items as := by
  induction items generalizing as with
  | nil => simp [decodeItems, eq_comm]
  | cons v vs ih =>
    simp only [decodeItems, bind_eq_ok, pure_eq_ok, List.forall₂_cons_left_iff, h v, ih]
    constructor
    · rintro ⟨a, ha, as', has', rfl⟩
      exact ⟨a, as', ha, has', rfl⟩
    · rintro ⟨a, as', ha, has', rfl⟩
      exact ⟨a, ha, as', has', rfl⟩

theorem Decides.list {α : Type} {decode : Decoder α} {form : Form α} (h : Decides decode form) :
    Decides (decodeList decode) (ListOf form) := by
  intro v as
  cases v with
  | arr items => simp [decodeList, ListOf, h.items]
  | _ => simp [decodeList, ListOf]

/-- A member that is there is decoded, and one that is not is left out. -/
theorem Decides.member {α : Type} {decode : Decoder α} {form : Form α} (h : Decides decode form)
    (members : List (String × Json)) (name : String) (o : Option α) :
    decodeMember members name decode = .ok o ↔
      (∃ a, o = some a ∧ Has members name form a) ∨ o = none ∧ Lacks members name := by
  unfold decodeMember
  cases hm : member? members name with
  | none =>
    have hlacks := member?_eq_none_iff.1 hm
    have hnot : ∀ a, ¬ Has members name form a := by
      rintro a ⟨v, hv, -⟩
      exact hv.not_lacks hlacks
    simp [hlacks, hnot, eq_comm]
  | some v =>
    have hholds := member?_eq_some_iff.1 hm
    simp only [map_eq_ok, h v, hholds.has_iff, hholds.not_lacks, and_false, or_false]
    constructor
    · rintro ⟨a, ha, rfl⟩
      exact ⟨a, rfl, ha⟩
    · rintro ⟨a, rfl, ha⟩
      exact ⟨a, ha, rfl⟩

theorem required_eq_ok {α : Type} {name : String} {o : Option α} {a : α} :
    required name o = .ok a ↔ o = some a := by
  cases o <;> simp [required]

/-- A member that may be missing is decoded, with a value for its absence. -/
theorem Decides.mayHave {α : Type} {decode : Decoder α} {form : Form α} (h : Decides decode form)
    {members : List (String × Json)} {name : String} {absent a : α} :
    MayHave members name form absent a ↔
      ∃ o, decodeMember members name decode = .ok o ∧ o.getD absent = a := by
  simp only [h.member]
  constructor
  · rintro (hhas | ⟨hlacks, rfl⟩)
    · exact ⟨some a, Or.inl ⟨a, rfl, hhas⟩, rfl⟩
    · exact ⟨none, Or.inr ⟨rfl, hlacks⟩, rfl⟩
  · rintro ⟨o, ⟨b, rfl, hhas⟩ | ⟨rfl, hlacks⟩, rfl⟩
    · exact Or.inl hhas
    · exact Or.inr ⟨hlacks, rfl⟩

theorem Decides.has {α : Type} {decode : Decoder α} {form : Form α} (h : Decides decode form)
    {members : List (String × Json)} {name : String} {a : α} :
    Has members name form a ↔ decodeMember members name decode = .ok (some a) := by
  simp [h.member]

theorem decodeItem_eq_ok {α : Type} {items : List Json} {i : Nat} {whole : String} {decode : Decoder α}
    {a : α} : decodeItem items i whole decode = .ok a ↔ ∃ v, items[i]? = some v ∧ decode v = .ok a := by
  unfold decodeItem
  cases items[i]? <;> simp

theorem noMoreThan_eq_ok {n : Nat} {items : List Json} {u : Unit} :
    noMoreThan n items = .ok u ↔ items.length ≤ n := by
  unfold noMoreThan
  split <;> simp_all

end Json

/-! ## Severities -/

namespace Severity

/-- The names of the severities. -/
def words : List (String × Severity) :=
  [("error", .error), ("warning", .warning), ("note", .note)]

/-- A severity stands as its name, or as an object that has the name as its only one, with `null`. -/
inductive Shown : Json.Form Severity
  | word {name : String} {s : Severity} (h : (name, s) ∈ words) : Shown (.str name) s
  | key {name : String} {s : Severity} {members : List (String × Json)} (h : (name, s) ∈ words)
      (honly : ∀ m ∈ members, m.1 = name) (hnull : Json.Holds members name .null) :
      Shown (.obj members) s

theorem ofJsonName_eq_ok {name : String} {s : Severity} : ofJsonName name = .ok s ↔ (name, s) ∈ words := by
  have hword : ∀ t : Severity, (t.name, t) ∈ words := by
    intro t
    cases t <;> decide
  constructor
  · unfold ofJsonName ofName?
    intro h
    split at h
    · next t ht =>
      obtain rfl : t = s := Except.ok.inj h
      have hname : t.name = name := by simpa using List.find?_some ht
      exact hname ▸ hword t
    · cases h
  · intro h
    simp only [words, List.mem_cons, List.not_mem_nil, or_false, Prod.mk.injEq] at h
    rcases h with ⟨rfl, rfl⟩ | ⟨rfl, rfl⟩ | ⟨rfl, rfl⟩
    all_goals rfl

/-- An object has one name if it has a member and no other name. -/
theorem eraseDups_eq_singleton {members : List (String × Json)} {name : String} :
    (members.map Prod.fst).eraseDups = [name] ↔ members ≠ [] ∧ ∀ m ∈ members, m.1 = name := by
  cases members with
  | nil => simp
  | cons m ms =>
    rw [List.map_cons, List.eraseDups_cons, List.cons.injEq]
    constructor
    · rintro ⟨rfl, hnil⟩
      refine ⟨by simp, ?_⟩
      intro x hx
      rcases List.mem_cons.1 hx with rfl | hx
      · rfl
      by_contra hne
      have hmem : x.1 ∈ (ms.map Prod.fst).filter fun b => !b == m.1 :=
        List.mem_filter.2 ⟨List.mem_map_of_mem hx, by simpa using hne⟩
      rw [← List.mem_eraseDups, hnil] at hmem
      cases hmem
    · rintro ⟨-, hall⟩
      obtain rfl := hall m List.mem_cons_self
      refine ⟨rfl, ?_⟩
      rw [List.filter_eq_nil_iff.2]
      · rfl
      · intro key hkey
        obtain ⟨x, hx, rfl⟩ := List.mem_map.1 hkey
        simp [hall x (List.mem_cons_of_mem m hx)]

theorem decides : Json.Decides ofJson Shown := by
  intro v s
  constructor
  · intro h
    cases v with
    | str name => exact .word (ofJsonName_eq_ok.1 h)
    | obj members =>
      simp only [ofJson] at h
      split at h
      · next name hkeys =>
        obtain ⟨hne, honly⟩ := eraseDups_eq_singleton.1 hkeys
        obtain ⟨t, ht, h⟩ := bind_eq_ok.1 h
        split at h
        · next hnull =>
          obtain rfl := pure_eq_ok.1 h
          exact .key (ofJsonName_eq_ok.1 ht) honly (Json.member?_eq_some_iff.1 hnull)
        · cases h
        · next hnone =>
          obtain ⟨m, ms, rfl⟩ := List.exists_cons_of_ne_nil hne
          exact absurd (honly m List.mem_cons_self)
            (Json.member?_eq_none_iff.1 hnone m List.mem_cons_self)
      · cases h
    | _ => cases h
  · intro h
    cases h with
    | word h => exact ofJsonName_eq_ok.2 h
    | @key name s members h honly hnull =>
      have hkeys : (members.map Prod.fst).eraseDups = [name] := by
        refine eraseDups_eq_singleton.2 ⟨?_, honly⟩
        rintro rfl
        exact hnull.not_lacks (by simp [Json.Lacks])
      simp only [ofJson, hkeys, ofJsonName_eq_ok.2 h, Json.member?_eq_some_iff.2 hnull]
      rfl

end Severity

/-! ## Spans -/

namespace Span

/-- A span stands as an object with its four fields, or as an array of just these in their order. -/
inductive Shown : Json.Form Span
  | object {members : List (String × Json)} {s : Span}
      (startLine : Json.Has members "start_line" Json.IsCount s.startLine)
      (startCol : Json.Has members "start_col" Json.IsCount s.startCol)
      (endLine : Json.Has members "end_line" Json.IsCount s.endLine)
      (endCol : Json.Has members "end_col" Json.IsCount s.endCol) : Shown (.obj members) s
  | array {a b c d : Json} {s : Span} (startLine : Json.IsCount a s.startLine)
      (startCol : Json.IsCount b s.startCol) (endLine : Json.IsCount c s.endLine)
      (endCol : Json.IsCount d s.endCol) : Shown (.arr [a, b, c, d]) s

theorem ofMembers_eq_ok {members : List (String × Json)} {s : Span} :
    ofMembers members = .ok s ↔ Shown (.obj members) s := by
  simp only [ofMembers, bind_eq_ok, Json.required_eq_ok, pure_eq_ok]
  constructor
  · rintro ⟨_, hec, _, hel, _, hsc, _, hsl, _, rfl, _, rfl, _, rfl, _, rfl, rfl⟩
    rw [← Json.decides_unsigned.has] at hsl hsc hel hec
    exact .object hsl hsc hel hec
  · rintro ⟨hsl, hsc, hel, hec⟩
    rw [Json.decides_unsigned.has] at hsl hsc hel hec
    exact ⟨_, hec, _, hel, _, hsc, _, hsl, _, rfl, _, rfl, _, rfl, _, rfl, rfl⟩

theorem ofItems_eq_ok {items : List Json} {s : Span} : ofItems items = .ok s ↔ Shown (.arr items) s := by
  simp only [ofItems, bind_eq_ok, Json.decodeItem_eq_ok, Json.decides_unsigned _ _, Json.noMoreThan_eq_ok,
    pure_eq_ok]
  constructor
  · rintro ⟨_, ⟨a, ha, hsl⟩, _, ⟨b, hb, hsc⟩, _, ⟨c, hc, hel⟩, _, ⟨d, hd, hec⟩, _, hlength, rfl⟩
    obtain rfl : items = [a, b, c, d] := by
      -- There are items at the first four places, and no more than four of them.
      refine List.ext_getElem? ?_
      intro i
      match i with
      | 0 => exact ha
      | 1 => exact hb
      | 2 => exact hc
      | 3 => exact hd
      | i + 4 => exact List.getElem?_eq_none (by omega)
    exact .array hsl hsc hel hec
  · rintro (_ | ⟨hsl, hsc, hel, hec⟩)
    exact ⟨_, ⟨_, rfl, hsl⟩, _, ⟨_, rfl, hsc⟩, _, ⟨_, rfl, hel⟩, _, ⟨_, rfl, hec⟩, (), Nat.le_refl 4, rfl⟩

theorem decides : Json.Decides ofJson Shown := by
  intro v s
  cases v with
  | obj members => exact ofMembers_eq_ok
  | arr items => exact ofItems_eq_ok
  | _ =>
    constructor
    · rintro ⟨⟩
    · rintro ⟨⟩

end Span

/-! ## Diagnostics -/

namespace Diagnostic

/-- What follows the first five items of an array: the notes, or nothing, which stands for none. -/
inductive NotesShown : List Json → List String → Prop
  | absent : NotesShown [] []
  | present {v : Json} {notes : List String} (h : Json.ListOf Json.IsText v notes) : NotesShown [v] notes

/-- A diagnostic stands as an object with its fields under their names, or as an array of them. -/
inductive Shown : Json.Form Diagnostic
  | object {members : List (String × Json)} {d : Diagnostic}
      (severity : Json.Has members "severity" Severity.Shown d.severity)
      (message : Json.Has members "message" Json.IsText d.message)
      (help : Json.MayHave members "help" (Json.OrNull Json.IsText) none d.help)
      (span : Json.MayHave members "span" (Json.OrNull Span.Shown) none d.span)
      (path : Json.MayHave members "path" (Json.OrNull Json.IsText) none d.path)
      (notes : Json.MayHave members "notes" (Json.ListOf Json.IsText) [] d.notes) :
      Shown (.obj members) d
  | array {a b c e f : Json} {rest : List Json} {d : Diagnostic} (severity : Severity.Shown a d.severity)
      (message : Json.IsText b d.message) (help : Json.OrNull Json.IsText c d.help)
      (span : Json.OrNull Span.Shown e d.span) (path : Json.OrNull Json.IsText f d.path)
      (notes : NotesShown rest d.notes) : Shown (.arr (a :: b :: c :: e :: f :: rest)) d

/-! ### The fields -/

theorem decides_optionalText : Json.Decides (Json.decodeOption Json.decodeString) (Json.OrNull Json.IsText) :=
  Json.decides_string.orNull (by simp [Json.IsText])

theorem decides_optionalSpan : Json.Decides (Json.decodeOption Span.ofJson) (Json.OrNull Span.Shown) :=
  Span.decides.orNull (by rintro s ⟨⟩)

theorem decides_notes : Json.Decides (Json.decodeList Json.decodeString) (Json.ListOf Json.IsText) :=
  Json.decides_string.list

/-! ### The two shapes -/

theorem ofMembers_eq_ok {members : List (String × Json)} {d : Diagnostic} :
    ofMembers members = .ok d ↔ Shown (.obj members) d := by
  simp only [ofMembers, bind_eq_ok, Json.required_eq_ok, pure_eq_ok]
  constructor
  · rintro ⟨help, hhelp, _, hmessage, notes, hnotes, path, hpath, _, hseverity, span, hspan, _, rfl, _, rfl,
      rfl⟩
    refine .object (Severity.decides.has.2 hseverity) (Json.decides_string.has.2 hmessage)
      (decides_optionalText.mayHave.2 ⟨help, hhelp, ?_⟩) (decides_optionalSpan.mayHave.2 ⟨span, hspan, ?_⟩)
      (decides_optionalText.mayHave.2 ⟨path, hpath, ?_⟩) (decides_notes.mayHave.2 ⟨notes, hnotes, rfl⟩)
    · cases help <;> rfl
    · cases span <;> rfl
    · cases path <;> rfl
  · rintro ⟨hseverity, hmessage, hhelp, hspan, hpath, hnotes⟩
    obtain ⟨help, hhelp, hh⟩ := decides_optionalText.mayHave.1 hhelp
    obtain ⟨span, hspan, hs⟩ := decides_optionalSpan.mayHave.1 hspan
    obtain ⟨path, hpath, hp⟩ := decides_optionalText.mayHave.1 hpath
    obtain ⟨notes, hnotes, hn⟩ := decides_notes.mayHave.1 hnotes
    refine ⟨help, hhelp, _, Json.decides_string.has.1 hmessage, notes, hnotes, path, hpath, _,
      Severity.decides.has.1 hseverity, span, hspan, _, rfl, _, rfl, ?_⟩
    obtain ⟨severity, message, _, _, _, _⟩ := d
    simp only at hh hs hp hn
    subst hh hs hp hn
    cases help <;> cases span <;> cases path <;> rfl

/-- What is left to do after the first five items: the notes are the sixth one, if there is one, and there
is no seventh. -/
theorem notesShown_iff {a b c e f : Json} {rest : List Json} {whole : String}
    {result : List String → Diagnostic} {d : Diagnostic} :
    (if (a :: b :: c :: e :: f :: rest).length ≤ 5 then do
      let notes ← pure []
      Json.noMoreThan 6 (a :: b :: c :: e :: f :: rest)
      return result notes
    else do
      let notes ← Json.decodeItem (a :: b :: c :: e :: f :: rest) 5 whole
        (Json.decodeList Json.decodeString)
      Json.noMoreThan 6 (a :: b :: c :: e :: f :: rest)
      return result notes) = .ok d ↔ ∃ notes, NotesShown rest notes ∧ result notes = d := by
  match rest with
  | [] =>
    have hlength : [a, b, c, e, f].length ≤ 5 := Nat.le_refl 5
    simp only [if_pos hlength, bind_eq_ok, pure_eq_ok, Json.noMoreThan_eq_ok]
    constructor
    · rintro ⟨_, rfl, _, -, hresult⟩
      exact ⟨[], .absent, hresult⟩
    · rintro ⟨_, ⟨⟩, hresult⟩
      exact ⟨[], rfl, (), Nat.le_succ 5, hresult⟩
  | [v] =>
    have hlength : ¬ [a, b, c, e, f, v].length ≤ 5 := Nat.not_succ_le_self 5
    simp only [if_neg hlength, bind_eq_ok, pure_eq_ok, Json.noMoreThan_eq_ok, Json.decodeItem_eq_ok]
    constructor
    · rintro ⟨notes, ⟨_, ⟨⟩, hnotes⟩, _, -, hresult⟩
      exact ⟨notes, .present ((decides_notes v notes).1 hnotes), hresult⟩
    · rintro ⟨notes, ⟨⟩ | hnotes, hresult⟩
      exact ⟨notes, ⟨v, rfl, (decides_notes v notes).2 hnotes⟩, (), Nat.le_refl 6, hresult⟩
  | v :: x :: rest =>
    have hlength : ¬ (a :: b :: c :: e :: f :: v :: x :: rest).length ≤ 5 := by simp
    simp only [if_neg hlength, bind_eq_ok, pure_eq_ok, Json.noMoreThan_eq_ok]
    constructor
    · rintro ⟨_, -, _, hmore, -⟩
      simp only [List.length_cons] at hmore
      omega
    · rintro ⟨_, ⟨⟩, -⟩

theorem ofItems_eq_ok {items : List Json} {d : Diagnostic} :
    ofItems items = .ok d ↔ Shown (.arr items) d := by
  simp only [ofItems, bind_eq_ok, Json.decodeItem_eq_ok]
  constructor
  · rintro ⟨_, ⟨a, ha, hseverity⟩, _, ⟨b, hb, hmessage⟩, _, ⟨c, hc, hhelp⟩, _, ⟨e, he, hspan⟩, _,
      ⟨f, hf, hpath⟩, hrest⟩
    obtain ⟨rest, rfl⟩ : ∃ rest, items = a :: b :: c :: e :: f :: rest := by
      rcases items with _ | ⟨_, _ | ⟨_, _ | ⟨_, _ | ⟨_, _ | ⟨_, rest⟩⟩⟩⟩⟩ <;> simp_all
    obtain ⟨notes, hnotes, rfl⟩ := notesShown_iff.1 hrest
    exact .array ((Severity.decides _ _).1 hseverity) ((Json.decides_string _ _).1 hmessage)
      ((decides_optionalText _ _).1 hhelp) ((decides_optionalSpan _ _).1 hspan)
      ((decides_optionalText _ _).1 hpath) hnotes
  · rintro (_ | ⟨hseverity, hmessage, hhelp, hspan, hpath, hnotes⟩)
    exact ⟨_, ⟨_, rfl, (Severity.decides _ _).2 hseverity⟩, _,
      ⟨_, rfl, (Json.decides_string _ _).2 hmessage⟩, _, ⟨_, rfl, (decides_optionalText _ _).2 hhelp⟩, _,
      ⟨_, rfl, (decides_optionalSpan _ _).2 hspan⟩, _, ⟨_, rfl, (decides_optionalText _ _).2 hpath⟩,
      notesShown_iff.2 ⟨_, hnotes, rfl⟩⟩

theorem decides : Json.Decides ofJson Shown := by
  intro v d
  cases v with
  | obj members => exact ofMembers_eq_ok
  | arr items => exact ofItems_eq_ok
  | _ =>
    constructor
    · rintro ⟨⟩
    · rintro ⟨⟩

/-! ### One meaning -/

/-- The object has those six values under the names of the fields; it may have others too. -/
structure Fields (members : List (String × Json)) (severity message help span path notes : Json) : Prop where
  severity : Json.Holds members "severity" severity
  message : Json.Holds members "message" message
  help : Json.Holds members "help" help
  span : Json.Holds members "span" span
  path : Json.Holds members "path" path
  notes : Json.Holds members "notes" notes

/-- Where no field is missing, the object and the array stand for the same. -/
theorem shown_object_iff_array {members : List (String × Json)} {a b c e f g : Json}
    (h : Fields members a b c e f g) (d : Diagnostic) :
    Shown (.obj members) d ↔ Shown (.arr [a, b, c, e, f, g]) d := by
  constructor
  · rintro ⟨hseverity, hmessage, hhelp, hspan, hpath, hnotes⟩
    exact .array (h.severity.has_iff.1 hseverity) (h.message.has_iff.1 hmessage)
      (h.help.mayHave_iff.1 hhelp) (h.span.mayHave_iff.1 hspan) (h.path.mayHave_iff.1 hpath)
      (.present (h.notes.mayHave_iff.1 hnotes))
  · rintro (_ | ⟨hseverity, hmessage, hhelp, hspan, hpath, _ | hnotes⟩)
    exact .object (h.severity.has_iff.2 hseverity) (h.message.has_iff.2 hmessage)
      (h.help.mayHave_iff.2 hhelp) (h.span.mayHave_iff.2 hspan) (h.path.mayHave_iff.2 hpath)
      (h.notes.mayHave_iff.2 hnotes)

end Diagnostic

/-- **A diagnostic has two forms in JSON, and they agree.** A value is decoded as a diagnostic if and only if
it is of one of the two forms, and as the one that it stands for: an object with the fields under their
names, whatever else is in it, or an array of five or six items. The same holds of a severity, which is one of
three names or an object with just that name and `null`, and of a span, which is an object with four counts
or an array of just four. If an object has all six fields, it is decoded exactly where the array of their
values is, and as the same diagnostic. -/
theorem diagnostic_forms :
    (∀ v d, Diagnostic.ofJson v = .ok d ↔ Diagnostic.Shown v d) ∧
    (∀ v s, Severity.ofJson v = .ok s ↔ Severity.Shown v s) ∧
    (∀ v s, Span.ofJson v = .ok s ↔ Span.Shown v s) ∧
    ∀ members a b c e f g, Diagnostic.Fields members a b c e f g →
      ∀ d, Diagnostic.ofJson (.obj members) = .ok d ↔
        Diagnostic.ofJson (.arr [a, b, c, e, f, g]) = .ok d := by
  refine ⟨Diagnostic.decides, Severity.decides, Span.decides, ?_⟩
  intro members a b c e f g hfields d
  rw [Diagnostic.decides, Diagnostic.decides]
  exact Diagnostic.shown_object_iff_array hfields d

/-- An object with a name that is not known and with one that it has twice. -/
def Sample.finding : List (String × Json) :=
  [("span", .arr [.int 1, .int 0, .int 2, .int 18446744073709551615]), ("colour", .bool true),
    ("notes", .arr [.str "here"]), ("message", .int 7), ("severity", .obj [("note", .null)]),
    ("path", .null), ("message", .str "odd"), ("help", .str "")]

/-- It has all the fields, and so it says the same as the array of them. -/
theorem sample_diagnostic_forms :
    Diagnostic.Fields Sample.finding (.obj [("note", .null)]) (.str "odd") (.str "")
      (.arr [.int 1, .int 0, .int 2, .int 18446744073709551615]) .null (.arr [.str "here"]) ∧
    Diagnostic.ofJson (.arr [.obj [("note", .null)], .str "odd", .str "",
        .arr [.int 1, .int 0, .int 2, .int 18446744073709551615], .null, .arr [.str "here"]]) =
      .ok ⟨.note, "odd", some "", some ⟨1, 0, 2, 18446744073709551615⟩, none, ["here"]⟩ := by
  have hfields : Diagnostic.Fields Sample.finding (.obj [("note", .null)]) (.str "odd") (.str "")
      (.arr [.int 1, .int 0, .int 2, .int 18446744073709551615]) .null (.arr [.str "here"]) := by
    constructor <;> exact Json.member?_eq_some_iff.1 rfl
  have hobject : Diagnostic.ofJson (.obj Sample.finding) =
      .ok ⟨.note, "odd", some "", some ⟨1, 0, 2, 18446744073709551615⟩, none, ["here"]⟩ := by
    decide +kernel
  exact ⟨hfields, (diagnostic_forms.2.2.2 _ _ _ _ _ _ _ hfields _).1 hobject⟩

end Conductor
