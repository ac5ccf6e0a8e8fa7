import Conductor.Config.Manifest
import Conductor.Proofs.TomlTables

/-!
# What a manifest says

Two sections of a document matter, each with one setting. A `Section` lists what distinguishes them: their
names and keys, what a message says that they should be, and what is wrong with an array without items. What a
section says about its setting is written down as a relation (`Section.DecodesTo`), and so is what can be wrong with
it (`Section.Faulty`), both in terms of which entries a table has and not of how they are found.

Loading is compared with these. Every key of a document that is read stands once (`read?_unambiguous`), and so
each of the two sections is met once in the fold over the entries (`foldlM_addEntry_eq_ok`), which stops at
the first fault (`foldlM_eq_error`).
-/

namespace Conductor

open Toml (Value Distinct)

namespace Toml

/-- No entry has the key. -/
def Lacks (entries : List (String × Value)) (key : String) : Prop :=
  ∀ e ∈ entries, e.1 ≠ key

theorem lookup?_eq_none_iff {entries : List (String × Value)} {key : String} :
    lookup? entries key = none ↔ Lacks entries key := by
  simp [lookup?, Lacks]

/-- Where no key stands twice, the place of an entry does not matter. -/
theorem lookup?_eq_some_iff {entries : List (String × Value)} (h : Distinct entries) {key : String}
    {v : Value} : lookup? entries key = some v ↔ (key, v) ∈ entries := by
  induction entries with
  | nil => simp [lookup?]
  | cons e es ih =>
    obtain ⟨hne, hes⟩ := distinct_cons.1 h
    obtain ⟨k, x⟩ := e
    by_cases hk : k = key
    · subst hk
      have hnot : (k, v) ∉ es := fun hmem => hne _ hmem rfl
      simp [lookup?, hnot, eq_comm]
    · have hskip : lookup? ((k, x) :: es) key = lookup? es key := by
        simp [lookup?, hk]
      rw [hskip, ih hes]
      simp [Ne.symm hk]

end Toml

/-! ## Sections -/

/-- A section of a manifest. -/
structure Section where
  name : String
  /-- The key of its setting. -/
  key : String
  /-- What a message says that the section should be. -/
  whole : String
  /-- What a message says that the setting should be. -/
  part : String
  /-- What is wrong with an array without items, if that is wrong. -/
  bare : Option Mismatch

namespace Section

def toolchain : Section := ⟨"toolchain", "program", "struct Toolchain", "a string", none⟩

def scratch : Section :=
  ⟨"scratch", "dir", "struct Scratch", "path string", some (.length 0 "struct Scratch with 1 element")⟩

/-- The value of the section says that, or nothing, about the setting. A table says it under the key, and
an array with its first item. -/
inductive DecodesTo (sec : Section) : Value → Option String → Prop
  | field {entries : List (String × Value)} {s : String} (h : (sec.key, .string s) ∈ entries) :
      DecodesTo sec (.table entries) (some s)
  | noField {entries : List (String × Value)} (h : Toml.Lacks entries sec.key) :
      DecodesTo sec (.table entries) none
  | datetime (d : Toml.Datetime) : DecodesTo sec (.datetime d) none
  | item (s : String) (rest : List Value) : DecodesTo sec (.array (.string s :: rest)) (some s)
  | noItem (h : sec.bare = none) : DecodesTo sec (.array []) none

/-- The value of the section is wrong in that way: it is no section at all, its setting is no text, or it is
an array that should have an item and has none. -/
inductive Faulty (sec : Section) : Value → Mismatch → Prop
  | string (s : String) : Faulty sec (.string s) (.type (.string s) sec.whole)
  | integer (n : Int) : Faulty sec (.integer n) (.type (.integer n) sec.whole)
  | float (x : Binary64) : Faulty sec (.float x) (.type (.float x) sec.whole)
  | boolean (b : Bool) : Faulty sec (.boolean b) (.type (.boolean b) sec.whole)
  | field {entries : List (String × Value)} {v : Value} (h : (sec.key, v) ∈ entries)
      (hv : ∀ s, v ≠ .string s) : Faulty sec (.table entries) (.type v.found sec.part)
  | item {v : Value} (rest : List Value) (hv : ∀ s, v ≠ .string s) :
      Faulty sec (.array (v :: rest)) (.type v.found sec.part)
  | noItem {m : Mismatch} (h : sec.bare = some m) : Faulty sec (.array []) m

/-! ### Decoding a section -/

/-- The common form of the decoders of the two sections. -/
def decode (sec : Section) : Value → Except Mismatch (Option String)
  | .table entries => Toml.stringField? entries sec.key sec.part
  | .datetime _ => .ok none
  | .array [] => match sec.bare with
    | some m => .error m
    | none => .ok none
  | .array (v :: _) => (v.asString sec.part).map some
  | v => .error (.type v.found sec.whole)

theorem decode_toolchain : toolchain.decode = Config.programOf? := by
  funext v
  unfold decode Config.programOf?
  cases v with
  | array items => cases items <;> rfl
  | _ => rfl

theorem decode_scratch : scratch.decode = Config.dirOf? := by
  funext v
  unfold decode Config.dirOf?
  cases v with
  | array items => cases items <;> rfl
  | _ => rfl

theorem asString_eq_ok {expected : String} {v : Value} {s : String} :
    v.asString expected = .ok s ↔ v = .string s := by
  cases v <;> simp [Value.asString]

theorem asString_eq_error {expected : String} {v : Value} {m : Mismatch} :
    v.asString expected = .error m ↔ (∀ s, v ≠ .string s) ∧ m = .type v.found expected := by
  cases v <;> simp [Value.asString, eq_comm]

theorem decode_eq_ok_iff (sec : Section) {v : Value} (hv : v.Unambiguous) {o : Option String} :
    sec.decode v = .ok o ↔ sec.DecodesTo v o := by
  constructor
  · intro h
    cases v with
    | table entries =>
      cases hv with
      | table _ hkeys _ =>
        simp only [decode, Toml.stringField?] at h
        split at h
        · next hnone =>
          cases h
          exact .noField (Toml.lookup?_eq_none_iff.1 hnone)
        · next x hsome =>
          obtain ⟨s, hs, rfl⟩ := map_eq_ok.1 h
          obtain rfl := asString_eq_ok.1 hs
          exact .field ((Toml.lookup?_eq_some_iff hkeys).1 hsome)
    | datetime d =>
      cases h
      exact .datetime d
    | array items =>
      cases items with
      | nil =>
        simp only [decode] at h
        split at h
        · cases h
        · next hbare =>
          cases h
          exact .noItem hbare
      | cons x rest =>
        obtain ⟨s, hs, rfl⟩ := map_eq_ok.1 h
        obtain rfl := asString_eq_ok.1 hs
        exact .item s rest
    | _ => cases h
  · intro h
    cases h with
    | @field entries s h =>
      cases hv with
      | table _ hkeys _ =>
        simp only [decode, Toml.stringField?, (Toml.lookup?_eq_some_iff hkeys).2 h]
        rfl
    | noField h => simp only [decode, Toml.stringField?, Toml.lookup?_eq_none_iff.2 h]
    | datetime d => rfl
    | item s rest => rfl
    | noItem h => simp only [decode, h]

theorem decode_eq_error_iff (sec : Section) {v : Value} (hv : v.Unambiguous) {m : Mismatch} :
    sec.decode v = .error m ↔ sec.Faulty v m := by
  constructor
  · intro h
    cases v with
    | table entries =>
      cases hv with
      | table _ hkeys _ =>
        simp only [decode, Toml.stringField?] at h
        split at h
        · cases h
        · next x hsome =>
          obtain ⟨hx, rfl⟩ := asString_eq_error.1 (map_eq_error.1 h)
          exact .field ((Toml.lookup?_eq_some_iff hkeys).1 hsome) hx
    | datetime d => cases h
    | array items =>
      cases items with
      | nil =>
        simp only [decode] at h
        split at h
        · next hbare =>
          cases h
          exact .noItem hbare
        · cases h
      | cons x rest =>
        obtain ⟨hx, rfl⟩ := asString_eq_error.1 (map_eq_error.1 h)
        exact .item rest hx
    | string s =>
      cases h
      exact .string s
    | integer n =>
      cases h
      exact .integer n
    | float x =>
      cases h
      exact .float x
    | boolean b =>
      cases h
      exact .boolean b
  · intro h
    cases h with
    | @field entries x h hx =>
      cases hv with
      | table _ hkeys _ =>
        simp only [decode, Toml.stringField?, (Toml.lookup?_eq_some_iff hkeys).2 h]
        exact map_eq_error.2 (asString_eq_error.2 ⟨hx, rfl⟩)
    | item rest hx => exact map_eq_error.2 (asString_eq_error.2 ⟨hx, rfl⟩)
    | noItem h => simp only [decode, h]
    | _ => rfl

end Section

/-! ## Documents -/

namespace Section

/-- What the document says about the setting of the section. A section that is not there says nothing. -/
inductive Means (sec : Section) (entries : List (String × Value)) : Option String → Prop
  | absent (h : Toml.Lacks entries sec.name) : Means sec entries none
  | present {v : Value} {o : Option String} (hmem : (sec.name, v) ∈ entries) (h : sec.DecodesTo v o) :
      Means sec entries o

/-- What becomes of a setting when the document is read: it keeps its old value if the section is not there,
and otherwise it has the one that the section gives it. -/
def Sets {α : Type} (sec : Section) (value : Option String → α) (entries : List (String × Value))
    (old new : α) : Prop :=
  (Toml.Lacks entries sec.name ∧ new = old) ∨
    ∃ v o, (sec.name, v) ∈ entries ∧ sec.DecodesTo v o ∧ new = value o

/-- Where no value is given, the setting has the one that stands for nothing said. -/
theorem sets_iff_means {α : Type} {sec : Section} {value : Option String → α}
    {entries : List (String × Value)} {new : α} :
    sec.Sets value entries (value none) new ↔ ∃ o, sec.Means entries o ∧ new = value o := by
  constructor
  · rintro (⟨hlacks, rfl⟩ | ⟨v, o, hmem, hsaid, rfl⟩)
    · exact ⟨none, .absent hlacks, rfl⟩
    · exact ⟨o, .present hmem hsaid, rfl⟩
  · rintro ⟨o, hlacks | ⟨hmem, hsaid⟩, rfl⟩
    · exact Or.inl ⟨hlacks, rfl⟩
    · exact Or.inr ⟨_, o, hmem, hsaid, rfl⟩

theorem sets_nil {α : Type} {sec : Section} {value : Option String → α} {old new : α} :
    sec.Sets value [] old new ↔ new = old := by
  simp [Sets, Toml.Lacks]

/-- Another entry has no part in it. -/
theorem sets_cons_of_ne {α : Type} {sec : Section} {value : Option String → α} {e : String × Value}
    {es : List (String × Value)} (h : e.1 ≠ sec.name) {old new : α} :
    sec.Sets value (e :: es) old new ↔ sec.Sets value es old new := by
  have hmem : ∀ v, (sec.name, v) ∈ e :: es ↔ (sec.name, v) ∈ es := by
    intro v
    rw [List.mem_cons]
    refine or_iff_right ?_
    rintro rfl
    exact h rfl
  simp only [Sets, Toml.Lacks, List.forall_mem_cons, h, hmem, ne_eq, not_false_eq_true, true_and]

/-- The entry of the section gives the value, and no later one changes it. -/
theorem sets_cons_of_eq {α : Type} {sec : Section} {value : Option String → α} {e : String × Value}
    {es : List (String × Value)} (h : e.1 = sec.name) (hdistinct : Distinct (e :: es)) {old new : α} :
    sec.Sets value (e :: es) old new ↔ ∃ o, sec.DecodesTo e.2 o ∧ sec.Sets value es (value o) new := by
  have hlacks : Toml.Lacks es sec.name := fun x hx => h ▸ (Toml.distinct_cons.1 hdistinct).1 x hx
  have hnone : ∀ v, (sec.name, v) ∉ es := fun v hmem => hlacks _ hmem rfl
  have hself : ∀ v, (sec.name, v) ∈ e :: es ↔ v = e.2 := by
    intro v
    rw [List.mem_cons, or_iff_left (hnone v), ← h]
    exact ⟨fun heq => congrArg Prod.snd heq, fun heq => heq ▸ rfl⟩
  have hthere : ¬ Toml.Lacks (e :: es) sec.name := fun hall => hall e List.mem_cons_self h
  simp only [Sets, hthere, hself, hlacks, hnone, false_and, false_or, true_and, exists_and_left,
    exists_false, or_false, exists_eq_left]

end Section

/-- The entry is that of a section, and it is wrong in that way. -/
def Wrong (e : String × Value) (m : Mismatch) : Prop :=
  ∃ sec ∈ [Section.toolchain, Section.scratch], e.1 = sec.name ∧ sec.Faulty e.2 m

/-- The first entry that is wrong, in the order of the document, is wrong in that way. -/
def FirstWrong (entries : List (String × Value)) (m : Mismatch) : Prop :=
  ∃ before e after, entries = before ++ e :: after ∧ (∀ x ∈ before, ∀ m', ¬ Wrong x m') ∧ Wrong e m

namespace Config

/-- The program that is configured by what a document says. -/
def programFor (o : Option String) : String :=
  o.getD "go"

theorem addEntry_toolchain {e : String × Value} (h : e.1 = Section.toolchain.name) (c : Config) :
    addEntry c e = (Section.toolchain.decode e.2).map fun o => { c with program := programFor o } := by
  have hname : e.1 = "toolchain" := h
  rw [addEntry, if_pos hname, Section.decode_toolchain]
  rfl

theorem addEntry_scratch {e : String × Value} (h : e.1 = Section.scratch.name) (c : Config) :
    addEntry c e = (Section.scratch.decode e.2).map fun o => { c with dir := o } := by
  have hname : e.1 = "scratch" := h
  have hother : e.1 ≠ "toolchain" := by
    rw [hname]
    decide
  rw [addEntry, if_neg hother, if_pos hname, Section.decode_scratch]

theorem addEntry_other {e : String × Value} (ht : e.1 ≠ Section.toolchain.name)
    (hs : e.1 ≠ Section.scratch.name) (c : Config) : addEntry c e = .ok c := by
  have ht' : e.1 ≠ "toolchain" := ht
  have hs' : e.1 ≠ "scratch" := hs
  rw [addEntry, if_neg ht', if_neg hs']

/-- What is wrong with an entry does not depend on those before it. -/
theorem addEntry_eq_error {e : String × Value} (hv : e.2.Unambiguous) (c : Config) (m : Mismatch) :
    addEntry c e = .error m ↔ Wrong e m := by
  simp only [Wrong, List.mem_cons, List.not_mem_nil, or_false, exists_eq_or_imp, exists_eq_left]
  by_cases ht : e.1 = Section.toolchain.name
  · have hs : ¬ e.1 = Section.scratch.name := by
      rw [ht]
      decide
    rw [addEntry_toolchain ht, map_eq_error, Section.decode_eq_error_iff _ hv]
    exact ⟨fun h => Or.inl ⟨ht, h⟩, fun h => h.elim And.right fun h => absurd h.1 hs⟩
  by_cases hs : e.1 = Section.scratch.name
  · rw [addEntry_scratch hs, map_eq_error, Section.decode_eq_error_iff _ hv]
    exact ⟨fun h => Or.inr ⟨hs, h⟩, fun h => h.elim (fun h => absurd h.1 ht) And.right⟩
  · rw [addEntry_other ht hs]
    simp [ht, hs]

/-- The two settings are read from the entries, each by itself. -/
theorem foldlM_addEntry_eq_ok {entries : List (String × Value)} (hkeys : Distinct entries)
    (hvalues : ∀ e ∈ entries, e.2.Unambiguous) {c c' : Config} :
    entries.foldlM addEntry c = .ok c' ↔
      Section.toolchain.Sets programFor entries c.program c'.program ∧
      Section.scratch.Sets id entries c.dir c'.dir := by
  induction entries generalizing c with
  | nil =>
    obtain ⟨program, dir⟩ := c
    obtain ⟨program', dir'⟩ := c'
    simp [pure, Except.pure, Section.sets_nil, eq_comm]
  | cons e es ih =>
    have htail := fun c => ih (Toml.distinct_cons.1 hkeys).2 (List.forall_mem_cons.1 hvalues).2 (c := c)
    have hvalue := (List.forall_mem_cons.1 hvalues).1
    rw [List.foldlM_cons]
    by_cases ht : e.1 = Section.toolchain.name
    · have hs : e.1 ≠ Section.scratch.name := by
        rw [ht]
        decide
      simp only [addEntry_toolchain ht, bind_eq_ok, map_eq_ok, Section.decode_eq_ok_iff _ hvalue,
        htail, Section.sets_cons_of_eq ht hkeys, Section.sets_cons_of_ne hs]
      constructor
      · rintro ⟨_, ⟨o, hsaid, rfl⟩, hprogram, hdir⟩
        exact ⟨⟨o, hsaid, hprogram⟩, hdir⟩
      · rintro ⟨⟨o, hsaid, hprogram⟩, hdir⟩
        exact ⟨_, ⟨o, hsaid, rfl⟩, hprogram, hdir⟩
    by_cases hs : e.1 = Section.scratch.name
    · simp only [addEntry_scratch hs, bind_eq_ok, map_eq_ok, Section.decode_eq_ok_iff _ hvalue,
        htail, Section.sets_cons_of_eq hs hkeys, Section.sets_cons_of_ne ht]
      constructor
      · rintro ⟨_, ⟨o, hsaid, rfl⟩, hprogram, hdir⟩
        exact ⟨hprogram, o, hsaid, hdir⟩
      · rintro ⟨hprogram, o, hsaid, hdir⟩
        exact ⟨_, ⟨o, hsaid, rfl⟩, hprogram, hdir⟩
    · simp only [addEntry_other ht hs, bind_eq_ok, Except.ok.injEq, exists_eq_left', htail,
        Section.sets_cons_of_ne ht, Section.sets_cons_of_ne hs]

/-- What is read as a configuration is what the document says about the two settings. -/
theorem ofEntries_eq_ok {entries : List (String × Value)} (h : (Value.table entries).Unambiguous)
    {c : Config} :
    ofEntries entries = .ok c ↔
      ∃ program dir, Section.toolchain.Means entries program ∧ Section.scratch.Means entries dir ∧
        c = ⟨programFor program, dir⟩ := by
  cases h with
  | table _ hkeys hvalues =>
    unfold ofEntries
    rw [foldlM_addEntry_eq_ok hkeys hvalues]
    show Section.toolchain.Sets programFor entries (programFor none) c.program ∧
      Section.scratch.Sets id entries (id none) c.dir ↔ _
    rw [Section.sets_iff_means, Section.sets_iff_means]
    constructor
    · rintro ⟨⟨program, hprogram, hp⟩, dir, hdir, hd⟩
      refine ⟨program, dir, hprogram, hdir, ?_⟩
      rw [← hp, show dir = c.dir from hd.symm]
    · rintro ⟨program, dir, hprogram, hdir, rfl⟩
      exact ⟨⟨program, hprogram, rfl⟩, dir, hdir, rfl⟩

theorem ofEntries_eq_error {entries : List (String × Value)} (h : (Value.table entries).Unambiguous)
    {m : Mismatch} : ofEntries entries = .error m ↔ FirstWrong entries m := by
  cases h with
  | table _ hkeys hvalues =>
    exact foldlM_eq_error fun e he c m => addEntry_eq_error (hvalues e he) c m

theorem load_eq_ok {text : String} {entries : List (String × Value)}
    (h : Toml.read? text = some entries) {c : Config} : load text = .ok c ↔ ofEntries entries = .ok c := by
  simp only [load, h]
  cases ofEntries entries <;> simp

theorem load_eq_error {text : String} {entries : List (String × Value)}
    (h : Toml.read? text = some entries) {e : ManifestError} :
    load text = .error e ↔ ∃ m, e = .shape m ∧ ofEntries entries = .error m := by
  simp only [load, h]
  cases ofEntries entries <;> simp [eq_comm]

end Config

/-! ## What does not matter -/

namespace Section

/-- The two values say the same about the setting, though they may differ elsewhere: in other entries of a
table, in their order, and in the later items of an array. -/
inductive Alike (sec : Section) : Value → Value → Prop
  | same (v : Value) : Alike sec v v
  | table {entries entries' : List (String × Value)}
      (h : ∀ v, (sec.key, v) ∈ entries ↔ (sec.key, v) ∈ entries') :
      Alike sec (.table entries) (.table entries')
  | array (v : Value) (rest rest' : List Value) : Alike sec (.array (v :: rest)) (.array (v :: rest'))

/-- The two documents say the same about the setting, though they may have other entries and another order. -/
inductive AlikeIn (sec : Section) (entries entries' : List (String × Value)) : Prop
  | absent (h : Toml.Lacks entries sec.name) (h' : Toml.Lacks entries' sec.name) : AlikeIn sec entries entries'
  | present {v v' : Value} (h : (sec.name, v) ∈ entries) (h' : (sec.name, v') ∈ entries')
      (halike : sec.Alike v v') : AlikeIn sec entries entries'

theorem Alike.symm {sec : Section} {v v' : Value} (h : sec.Alike v v') : sec.Alike v' v := by
  cases h with
  | same => exact .same _
  | table h => exact .table fun v => (h v).symm
  | array v rest rest' => exact .array v rest' rest

theorem AlikeIn.symm {sec : Section} {entries entries' : List (String × Value)}
    (h : sec.AlikeIn entries entries') : sec.AlikeIn entries' entries := by
  cases h with
  | absent h h' => exact .absent h' h
  | present h h' halike => exact .present h' h halike.symm

theorem Alike.keeps {sec : Section} {v v' : Value} (h : sec.Alike v v') {o : Option String}
    (hsaid : sec.DecodesTo v o) : sec.DecodesTo v' o := by
  cases h with
  | same => exact hsaid
  | table h =>
    cases hsaid with
    | field hmem => exact .field ((h _).1 hmem)
    | noField hlacks =>
      refine .noField ?_
      rintro ⟨key, x⟩ hx rfl
      exact hlacks _ ((h x).2 hx) rfl
  | array x rest rest' =>
    cases hsaid with
    | item s _ => exact .item s rest'

/-- A document with distinct keys has one value for a section. -/
theorem AlikeIn.means {sec : Section} {entries entries' : List (String × Value)}
    (h : sec.AlikeIn entries entries') (hdoc : (Value.table entries).Unambiguous) {o : Option String}
    (hmeans : sec.Means entries o) : sec.Means entries' o := by
  cases h with
  | absent h h' =>
    cases hmeans with
    | absent => exact .absent h'
    | present hmem => exact absurd rfl (h _ hmem)
  | present h h' halike =>
    cases hmeans with
    | absent hlacks => exact absurd rfl (hlacks _ h)
    | present hmem hsaid =>
      cases hdoc with
      | table _ hkeys _ =>
        have hv := (Toml.lookup?_eq_some_iff hkeys).2 h
        rw [(Toml.lookup?_eq_some_iff hkeys).2 hmem] at hv
        obtain rfl := Option.some.inj hv
        exact .present h' (halike.keeps hsaid)

end Section

/-- What agrees on the two settings is accepted together, and as the same configuration. -/
theorem Config.ofEntries_alike {entries entries' : List (String × Value)}
    (h : (Value.table entries).Unambiguous) (h' : (Value.table entries').Unambiguous)
    (htoolchain : Section.toolchain.AlikeIn entries entries')
    (hscratch : Section.scratch.AlikeIn entries entries') {c : Config} (hc : ofEntries entries = .ok c) :
    ofEntries entries' = .ok c := by
  obtain ⟨program, dir, hprogram, hdir, rfl⟩ := (ofEntries_eq_ok h).1 hc
  exact (ofEntries_eq_ok h').2 ⟨program, dir, htoolchain.means h hprogram, hscratch.means h hdir, rfl⟩

/-- **Which manifests are accepted, and as what.** Take any text that is a TOML document. It is loaded if and
only if each of its two sections is absent or says something about its setting or nothing: as a table under
the key, as an array with its first item, or as a date or time, which says nothing; an array without items
will do for the toolchain only. The configuration then has what is said, with `go` as the program and no
directory where nothing is said. Otherwise the error is that of the first entry that is wrong, in the order of
the document. And two documents that agree on the two settings, whatever else is in them, are loaded as the same
configuration or both refused. -/
theorem manifest_acceptance (text : String) (entries : List (String × Value))
    (h : Toml.read? text = some entries) :
    (∀ c, Config.load text = .ok c ↔
      ∃ program dir, Section.toolchain.Means entries program ∧ Section.scratch.Means entries dir ∧
        c = ⟨program.getD "go", dir⟩) ∧
    (∀ e, Config.load text = .error e ↔ ∃ m, e = .shape m ∧ FirstWrong entries m) ∧
    (∀ text' entries', Toml.read? text' = some entries' →
      Section.toolchain.AlikeIn entries entries' → Section.scratch.AlikeIn entries entries' →
        ∀ c, Config.load text = .ok c ↔ Config.load text' = .ok c) := by
  have hdoc := Toml.read?_unambiguous h
  refine ⟨?_, ?_, ?_⟩
  · intro c
    rw [Config.load_eq_ok h, Config.ofEntries_eq_ok hdoc]
    rfl
  · intro e
    simp only [Config.load_eq_error h, Config.ofEntries_eq_error hdoc]
  · intro text' entries' h' htoolchain hscratch c
    have hdoc' := Toml.read?_unambiguous h'
    rw [Config.load_eq_ok h, Config.load_eq_ok h']
    exact ⟨Config.ofEntries_alike hdoc hdoc' htoolchain hscratch,
      Config.ofEntries_alike hdoc' hdoc htoolchain.symm hscratch.symm⟩

namespace Sample

/-- A manifest with a table and an array. -/
def manifest : String := "scratch=['s',1]\n[toolchain]\nprogram='p'"

theorem read?_manifest : Toml.read? manifest =
    some [("scratch", .array [.string "s", .integer 1]),
      ("toolchain", .table [("program", .string "p")])] := by
  decide +kernel

/-- The same in another order, with more in the table and less in the array. -/
def reordered : String := "toolchain=\x7bx=2,program='p'\x7d\nscratch=['s']"

theorem read?_reordered : Toml.read? reordered =
    some [("toolchain", .table [("x", .integer 2), ("program", .string "p")]),
      ("scratch", .array [.string "s"])] := by
  decide +kernel

/-- A manifest with two sections that are wrong. -/
def faulty : String := "scratch=[]\ntoolchain=1"

theorem read?_faulty : Toml.read? faulty = some [("scratch", .array []), ("toolchain", .integer 1)] := by
  decide +kernel

end Sample

/-- A manifest, another one that says the same, and one of which the first section is reported. -/
theorem sample_manifest_acceptance :
    Config.load Sample.manifest = .ok ⟨"p", some "s"⟩ ∧
    Config.load Sample.reordered = .ok ⟨"p", some "s"⟩ ∧
    Config.load Sample.faulty = .error (.shape (.length 0 "struct Scratch with 1 element")) := by
  obtain ⟨haccepted, -, halike⟩ := manifest_acceptance _ _ Sample.read?_manifest
  obtain ⟨-, hrefused, -⟩ := manifest_acceptance _ _ Sample.read?_faulty
  have hload : Config.load Sample.manifest = .ok ⟨"p", some "s"⟩ :=
    (haccepted _).2 ⟨some "p", some "s", .present (.tail _ (.head _)) (.field (.head _)),
      .present (.head _) (.item "s" _), rfl⟩
  refine ⟨hload, ?_, ?_⟩
  · refine (halike _ _ Sample.read?_reordered ?_ ?_ _).1 hload
    · exact .present (.tail _ (.head _)) (.head _) (.table (by simp [Section.toolchain]))
    · exact .present (.head _) (.tail _ (.head _)) (.array (.string "s") _ _)
  · exact (hrefused _).2 ⟨_, rfl, [], _, _, rfl, by simp, Section.scratch, by simp, rfl, .noItem rfl⟩

end Conductor
