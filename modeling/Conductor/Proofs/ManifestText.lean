import Mathlib.Data.List.TakeDrop
import Conductor.Proofs.ManifestShape

/-!
# Writing a manifest

A setting can be written as a table with a header, as a dotted key, or as an inline table. Each of these is
read back, whatever the text of the setting is.

How a text is put between quotes is a relation (`Toml.Quotes`), because there is more than one way: a character
may be spelled as itself, by a letter, or by its number with four or eight digits, but a quote, a backslash and
a control character other than the tab may not stand for themselves. `Toml.quote` is one way that works for
every text.

Reading goes line by line. `Toml.Reads` says that a line is read as a statement whatever comes after it,
`Lines.statements?_eq` that a text made of such lines is read as their statements, and
`Style.foldlM_statements` what a written table adds to the document.
-/

namespace Conductor

namespace Toml

/-! ## Numbers of characters -/

/-- The digits of base sixteen, in each of the two cases. -/
def hexDigits : List (List Char) :=
  ["0123456789abcdef".toList, "0123456789ABCDEF".toList]

/-- The digits stand for the number. -/
inductive Numeral : List Char → Nat → Prop
  | nil : Numeral [] 0
  | snoc {ds : List Char} {n : Nat} (h : Numeral ds n) {d : Char} {value : Nat} {row : List Char}
      (hrow : row ∈ hexDigits) (hd : row[value]? = some d) : Numeral (ds ++ [d]) (n * 16 + value)

theorem hexValue?_of_mem {row : List Char} (hrow : row ∈ hexDigits) {d : Char} {value : Nat}
    (hd : row[value]? = some d) : Digits.hexValue? d = some value := by
  have hall : ∀ row ∈ hexDigits, ∀ i : Fin row.length, Digits.hexValue? (row.get i) = some i.val := by
    decide
  obtain ⟨hlt, rfl⟩ := List.getElem?_eq_some_iff.1 hd
  exact hall row hrow ⟨value, hlt⟩

theorem Numeral.hexToNat?_eq {ds : List Char} {n : Nat} (h : Numeral ds n) :
    Digits.hexToNat? ds = some n := by
  induction h with
  | nil => rfl
  | @snoc ds n h d value row hrow hd ih =>
    unfold Digits.hexToNat? at ih ⊢
    obtain ⟨values, hvalues, hn⟩ := Option.map_eq_some_iff.1 ih
    simp [List.mapM_append, hvalues, hexValue?_of_mem hrow hd, ← hn]

/-! ## Quoted texts -/

/-- The character may stand for itself between quotes. -/
def Plain (c : Char) : Prop :=
  c = '\t' ∨ 0x20 ≤ c.toNat ∧ c.toNat ≠ 0x7F ∧ c ≠ '"' ∧ c ≠ '\\'

/-- The letters that name a character behind a backslash. -/
def namedBy : List (Char × Char) :=
  [('b', '\x08'), ('t', '\t'), ('n', '\n'), ('f', '\x0c'), ('r', '\r'), ('"', '"'), ('\\', '\\')]

/-- The characters spell that one between quotes. -/
inductive Spells : List Char → Char → Prop
  | plain {c : Char} (h : Plain c) : Spells [c] c
  | named {letter c : Char} (h : (letter, c) ∈ namedBy) : Spells ['\\', letter] c
  | short {ds : List Char} {c : Char} (hds : Numeral ds c.toNat) (hlength : ds.length = 4) :
      Spells ('\\' :: 'u' :: ds) c
  | long {ds : List Char} {c : Char} (hds : Numeral ds c.toNat) (hlength : ds.length = 8) :
      Spells ('\\' :: 'U' :: ds) c

/-- The characters spell the text between quotes. -/
inductive SpellsAll : List Char → List Char → Prop
  | nil : SpellsAll [] []
  | cons {spelling : List Char} {c : Char} {body cs : List Char} (h : Spells spelling c)
      (hs : SpellsAll body cs) : SpellsAll (spelling ++ body) (c :: cs)

/-- The text is written in that way as a string. -/
def Quotes (s quoted : String) : Prop :=
  ∃ body, SpellsAll body s.toList ∧ quoted.toList = '"' :: (body ++ ['"'])

theorem Plain.ne_quote {c : Char} (h : Plain c) : c ≠ '"' := by
  rcases h with rfl | ⟨-, -, h, -⟩
  · decide
  · exact h

theorem Plain.ne_backslash {c : Char} (h : Plain c) : c ≠ '\\' := by
  rcases h with rfl | ⟨-, -, -, h⟩
  · decide
  · exact h

theorem Plain.isTextChar {c : Char} (h : Plain c) : isTextChar c = true := by
  rcases h with rfl | ⟨hlow, hdelete, -⟩
  · rfl
  · simp [Toml.isTextChar, hlow, hdelete]

theorem named?_of_mem {letter c : Char} (h : (letter, c) ∈ namedBy) : named? letter = some c := by
  have hall : ∀ p ∈ namedBy, named? p.1 = some p.2 := by decide
  exact hall _ h

theorem charOfHex?_numeral {ds : List Char} {c : Char} (h : Numeral ds c.toNat) :
    charOfHex? ds = some c := by
  have hvalid : c.toNat.isValidChar := c.valid
  simp [charOfHex?, h.hexToNat?_eq, hvalid]

/-- A spelled character is read as the character. -/
theorem Spells.basic?_eq {spelling : List Char} {c : Char} (h : Spells spelling c)
    (acc rest : List Char) : basic? acc (spelling ++ rest) = basic? (c :: acc) rest := by
  cases h with
  | plain h =>
    rw [List.singleton_append, basic?]
    · simp [h.isTextChar, h.ne_backslash]
    · exact h.ne_quote
    · exact fun _ _ _ _ _ hc _ => h.ne_backslash hc
    · exact fun _ _ _ _ _ _ _ _ _ hc _ => h.ne_backslash hc
    · exact fun _ _ hc _ => h.ne_backslash hc
  | @named letter _ h =>
    have hnot : ∀ p ∈ namedBy, p.1 ≠ 'u' ∧ p.1 ≠ 'U' := by decide
    rw [List.cons_append, List.cons_append, List.nil_append, basic?]
    · rw [named?_of_mem h]
    · exact fun _ _ _ _ _ hu _ => (hnot _ h).1 hu
    · exact fun _ _ _ _ _ _ _ _ _ hu _ => (hnot _ h).2 hu
  | @short ds _ hds hlength =>
    match ds, hlength with
    | [_, _, _, _], _ => simp only [List.cons_append, List.nil_append, basic?, charOfHex?_numeral hds]
  | @long ds _ hds hlength =>
    match ds, hlength with
    | [_, _, _, _, _, _, _, _], _ =>
      simp only [List.cons_append, List.nil_append, basic?, charOfHex?_numeral hds]

theorem SpellsAll.basic?_eq {body cs : List Char} (h : SpellsAll body cs) (acc rest : List Char) :
    basic? acc (body ++ '"' :: rest) = some (String.ofList (acc.reverse ++ cs), rest) := by
  induction h generalizing acc with
  | nil => simp [basic?, collected]
  | cons h _ ih =>
    rw [List.append_assoc, h.basic?_eq, ih, List.reverse_cons, List.append_assoc]
    rfl

/-- No spelling begins with a quote. -/
theorem SpellsAll.head?_ne {body cs : List Char} (h : SpellsAll body cs) : body.head? ≠ some '"' := by
  cases h with
  | nil => simp
  | cons h _ =>
    cases h with
    | plain h => simpa using h.ne_quote
    | _ => simp

/-- A quoted text is read back where no third quote follows two that stand for no text. -/
theorem string?_quoted {body : List Char} {s : String} (h : SpellsAll body s.toList) {rest : List Char}
    (hrest : rest.head? ≠ some '"') : string? ('"' :: (body ++ '"' :: rest)) = some (s, rest) := by
  have hbasic : string? ('"' :: (body ++ '"' :: rest)) = basic? [] (body ++ '"' :: rest) := by
    rw [string?]
    rintro tail htail
    have hbody := h.head?_ne
    cases body with
    | nil => exact hrest (by simp_all)
    | cons c cs => exact hbody (by simp_all)
  rw [hbasic, h.basic?_eq]
  simp

/-! ## A way to write every text -/

instance (c : Char) : Decidable (Plain c) :=
  inferInstanceAs (Decidable (_ ∨ _))

/-- How a character is written: as itself, or by its number. -/
def spell (c : Char) : List Char :=
  if Plain c then [c]
  else ['\\', 'u', '0', '0', Nat.digitChar (c.toNat / 16), Nat.digitChar (c.toNat % 16)]

def quote (s : String) : String :=
  String.ofList ('"' :: (s.toList.flatMap spell ++ ['"']))

theorem Numeral.digitChar {ds : List Char} {n : Nat} (h : Numeral ds n) (value : Nat)
    (hvalue : value < 16) : Numeral (ds ++ [Nat.digitChar value]) (n * 16 + value) := by
  have hall : ∀ v, v < 16 → "0123456789abcdef".toList[v]? = some (Nat.digitChar v) := by decide
  exact h.snoc (List.mem_cons_self ..) (hall value hvalue)

theorem spells_spell (c : Char) : Spells (spell c) c := by
  unfold spell
  by_cases hplain : Plain c
  · rw [if_pos hplain]
    exact .plain hplain
  · rw [if_neg hplain]
    have hsmall : c.toNat < 0x80 := by
      by_contra hlarge
      refine hplain (Or.inr ⟨by omega, by omega, ?_, ?_⟩)
      · rintro rfl
        exact hlarge (by decide)
      · rintro rfl
        exact hlarge (by decide)
    have hzero : Numeral ['0', '0'] 0 := (Numeral.nil.digitChar 0 (by decide)).digitChar 0 (by decide)
    have hds := (hzero.digitChar (c.toNat / 16) (by omega)).digitChar (c.toNat % 16) (by omega)
    have hnumber : (0 * 16 + c.toNat / 16) * 16 + c.toNat % 16 = c.toNat := by omega
    rw [hnumber] at hds
    exact .short hds rfl

/-- Every text can be written. -/
theorem quotes_quote (s : String) : Quotes s (quote s) := by
  refine ⟨s.toList.flatMap spell, ?_, by simp [quote]⟩
  induction s.toList with
  | nil => exact .nil
  | cons c cs ih => exact .cons (spells_spell c) ih

/-! ## Keys -/

/-- The name needs no quotes as a key. -/
structure Bare (name : String) : Prop where
  ne_nil : name.toList ≠ []
  all : ∀ c ∈ name.toList, isBareChar c = true

instance (name : String) : Decidable (Bare name) :=
  decidable_of_iff (name.toList.isEmpty = false ∧ name.toList.all isBareChar = true)
    ⟨fun h => ⟨List.isEmpty_eq_false_iff.1 h.1, List.all_eq_true.1 h.2⟩,
      fun h => ⟨List.isEmpty_eq_false_iff.2 h.ne_nil, List.all_eq_true.2 h.all⟩⟩

theorem Bare.eq_cons {name : String} (h : Bare name) :
    ∃ c cs, name.toList = c :: cs ∧ isBareChar c = true := by
  obtain ⟨c, cs, hcs⟩ := List.exists_cons_of_ne_nil h.ne_nil
  exact ⟨c, cs, hcs, h.all c (hcs ▸ List.mem_cons_self)⟩

/-- A statement begins with the character: with a bracket or a bare key. -/
def Begins (c : Char) : Prop :=
  c = '[' ∨ isBareChar c = true

instance (c : Char) : Decidable (Begins c) :=
  inferInstanceAs (Decidable (_ ∨ _))

theorem Begins.ne {c d : Char} (h : Begins c) (hd : ¬ Begins d) : c ≠ d := by
  rintro rfl
  exact hd h

theorem Begins.isSpace {c : Char} (h : Begins c) : isSpace c = false := by
  have hblank : c ≠ ' ' := h.ne (by decide)
  have htab : c ≠ '\t' := h.ne (by decide)
  simp [Toml.isSpace, hblank, htab]

theorem ne_of_isBareChar {c d : Char} (h : isBareChar c = true) (hd : isBareChar d = false) : c ≠ d := by
  rintro rfl
  rw [hd] at h
  cases h

/-- The text does not go on with a bare key. -/
def Stops (rest : List Char) : Prop :=
  ∀ c ∈ rest.head?, isBareChar c = false

theorem span_bare {name : List Char} (h : ∀ c ∈ name, isBareChar c = true) {rest : List Char}
    (hrest : Stops rest) : (name ++ rest).span isBareChar = (name, rest) := by
  rw [List.span_eq_takeWhile_dropWhile, List.takeWhile_append_of_pos h, List.dropWhile_append_of_pos h]
  cases rest with
  | nil => simp
  | cons c cs => simp [hrest c rfl]

theorem keyPart?_bare {name : String} (h : Bare name) {rest : List Char} (hrest : Stops rest) :
    keyPart? (name.toList ++ rest) = some (name, rest) := by
  obtain ⟨c, cs, hcs, hc⟩ := h.eq_cons
  have hspan := span_bare h.all hrest
  rw [hcs, List.cons_append] at hspan ⊢
  rw [keyPart?]
  · rw [hspan]
    simp [← hcs]
  · exact fun _ heq => ne_of_isBareChar hc (by decide) (List.cons.inj heq).1
  · exact fun _ heq => ne_of_isBareChar hc (by decide) (List.cons.inj heq).1

theorem skipSpace_of_begins {c : Char} (h : Begins c) (s : List Char) : skipSpace (c :: s) = c :: s := by
  simp [skipSpace, h.isSpace]

theorem Bare.skipSpace_eq {name : String} (h : Bare name) (rest : List Char) :
    skipSpace (name.toList ++ rest) = name.toList ++ rest := by
  obtain ⟨c, cs, hcs, hc⟩ := h.eq_cons
  rw [hcs]
  exact skipSpace_of_begins (Or.inr hc) (cs ++ rest)

/-- The last part of a key ends where something else than a dot follows. -/
theorem keyParts?_last {name : String} (h : Bare name) {rest more : List Char} {c : Char}
    (hstops : Stops rest) (hrest : skipSpace rest = c :: more) (hc : c ≠ '.') (limit : Nat) :
    keyParts? (limit + 1) (name.toList ++ rest) = some ([name], c :: more) := by
  rw [keyParts?, h.skipSpace_eq, keyPart?_bare h hstops]
  simp only [hrest]
  split
  · next heq => exact absurd (List.cons.inj heq).1 hc
  · rfl

theorem keyParts?_dot {name : String} (h : Bare name) (rest : List Char) (limit : Nat) :
    keyParts? (limit + 1) (name.toList ++ '.' :: rest) =
      (keyParts? limit rest).map fun (parts, s) => (name :: parts, s) := by
  have hstops : Stops ('.' :: rest) := by
    rintro c ⟨⟩
    decide
  have hskip : skipSpace ('.' :: rest) = '.' :: rest := by simp [skipSpace, isSpace]
  rw [keyParts?, h.skipSpace_eq, keyPart?_bare h hstops]
  simp only [hskip]

theorem key?_bare {name : String} (h : Bare name) {rest more : List Char} {c : Char}
    (hstops : Stops rest) (hrest : skipSpace rest = c :: more) (hc : c ≠ '.') :
    key? (name.toList ++ rest) = some (⟨[], name⟩, c :: more) := by
  rw [key?, depthLimit, keyParts?_last h hstops hrest hc]
  rfl

/-! ## Values -/

theorem value?_quoted {body : List Char} {s : String} (h : SpellsAll body s.toList) {rest : List Char}
    (hrest : rest.head? ≠ some '"') (depth : Nat) :
    value? depth ('"' :: (body ++ '"' :: rest)) = some (.string s, rest) := by
  have hscalar : scalar? ('"' :: (body ++ '"' :: rest)) = some (.string s, rest) := by
    simp [scalar?, string?_quoted h hrest]
  cases depth <;> simpa [value?] using hscalar

/-- What stands between a key and its value. -/
def equals : List Char := [' ', '=', ' ']

theorem stops_equals (s : List Char) : Stops (equals ++ s) := by
  rintro c ⟨⟩
  decide

theorem skipSpace_equals (s : List Char) : skipSpace (equals ++ s) = '=' :: ' ' :: s := by
  simp [equals, skipSpace, isSpace]

theorem key?_equals {name : String} (h : Bare name) (more : List Char) :
    key? (name.toList ++ (equals ++ more)) = some (⟨[], name⟩, '=' :: ' ' :: more) :=
  key?_bare h (stops_equals more) (skipSpace_equals more) (by decide)

theorem key?_dotted_equals {parent name : String} (hparent : Bare parent) (h : Bare name) (more : List Char) :
    key? (parent.toList ++ '.' :: name.toList ++ (equals ++ more)) =
      some (⟨[parent], name⟩, '=' :: ' ' :: more) := by
  rw [List.append_assoc, List.cons_append, key?, depthLimit, keyParts?_dot hparent,
    keyParts?_last h (stops_equals more) (skipSpace_equals more) (by decide)]
  rfl

/-- A key and a value are read where the value is. -/
theorem pair?_eq {read : Reader} {s more rest : List Char} {key : Key} {v : Value}
    (hkey : key? s = some (key, '=' :: ' ' :: more)) (hmore : skipSpace more = more)
    (hvalue : read more = some (v, rest)) : pair? read s = some ((key, v), skipSpace rest) := by
  have hskip : skipSpace (' ' :: more) = more := hmore
  simp only [pair?, hkey, hskip, hvalue]

/-- An inline table with one text in it. -/
theorem value?_inline {key : String} (hkey : Bare key) {body : List Char} {s : String}
    (h : SpellsAll body s.toList) (rest : List Char) (depth : Nat) :
    value? (depth + 1) ('\x7b' :: ' ' :: (key.toList ++ (equals ++
        '"' :: (body ++ '"' :: ' ' :: '\x7d' :: rest)))) =
      some (.table [(key, .string s)], rest) := by
  have hpair : pair? (value? depth) (key.toList ++ (equals ++ '"' :: (body ++ '"' :: ' ' :: '\x7d' :: rest))) =
      some ((⟨[], key⟩, .string s), '\x7d' :: rest) :=
    pair?_eq (key?_equals hkey _) rfl (value?_quoted h (by simp) depth)
  have hspace : skipSpace (' ' :: (key.toList ++ (equals ++ '"' :: (body ++ '"' :: ' ' :: '\x7d' :: rest)))) =
      key.toList ++ (equals ++ '"' :: (body ++ '"' :: ' ' :: '\x7d' :: rest)) :=
    hkey.skipSpace_eq _
  obtain ⟨c, cs, hcs, hc⟩ := hkey.eq_cons
  have hbrace : c ≠ '\x7d' := ne_of_isBareChar hc (by decide)
  simp only [value?, hspace]
  rw [hcs] at hpair ⊢
  split
  · next heq => exact absurd (List.cons.inj heq).1 hbrace
  · rw [pairs?, hpair]
    rfl

/-! ## Lines -/

/-- The text ends there, or the line does and the rest follows. -/
inductive LineEnd : List Char → List Char → Prop
  | last : LineEnd [] []
  | newline (rest : List Char) : LineEnd ('\n' :: rest) rest

theorem LineEnd.lineEnd?_eq {s rest : List Char} (h : LineEnd s rest) : lineEnd? s = some rest := by
  cases h <;> rfl

theorem LineEnd.skipSpace_eq {s rest : List Char} (h : LineEnd s rest) : skipSpace s = s := by
  cases h <;> rfl

theorem LineEnd.head?_ne {s rest : List Char} (h : LineEnd s rest) : s.head? ≠ some '"' := by
  cases h <;> simp

/-- The line is read as the statement, whatever follows it. -/
structure Reads (line : List Char) (st : Statement) : Prop where
  begins : ∃ c cs, line = c :: cs ∧ Begins c
  reads : ∀ s rest, LineEnd s rest → statement? (line ++ s) = some (st, rest)

theorem reads_header {name : String} (h : Bare name) :
    Reads ('[' :: (name.toList ++ [']'])) (.table ⟨[], name⟩) := by
  refine ⟨⟨'[', _, rfl, Or.inl rfl⟩, ?_⟩
  intro s rest hend
  have hstops : Stops (']' :: s) := by
    rintro c ⟨⟩
    decide
  have hkey : key? (name.toList ++ ']' :: s) = some (⟨[], name⟩, ']' :: s) :=
    key?_bare h hstops rfl (by decide)
  obtain ⟨c, cs, hcs, hc⟩ := h.eq_cons
  have hbracket : c ≠ '[' := ne_of_isBareChar hc (by decide)
  rw [hcs] at hkey ⊢
  simp only [List.cons_append, List.append_assoc, List.nil_append] at hkey ⊢
  rw [statement?]
  · simp only [hkey, hend.lineEnd?_eq, Option.map_some]
  · intro tail htail
    exact hbracket (List.cons.inj htail).1

/-- A line with a key and a value is read if both are, whatever follows them. -/
theorem reads_pair {front back : List Char} (hbegins : ∃ c cs, front = c :: cs ∧ isBareChar c = true)
    {key : Key} {v : Value}
    (hkey : ∀ more, key? (front ++ (equals ++ more)) = some (key, '=' :: ' ' :: more))
    (hspace : ∀ s, skipSpace (back ++ s) = back ++ s)
    (hvalue : ∀ s rest, LineEnd s rest → value? depthLimit (back ++ s) = some (v, s)) :
    Reads (front ++ (equals ++ back)) (.pair key v) := by
  obtain ⟨c, cs, rfl, hc⟩ := hbegins
  refine ⟨⟨c, _, rfl, Or.inr hc⟩, ?_⟩
  intro s rest hend
  have hpair : pair? (value? depthLimit) (c :: cs ++ (equals ++ (back ++ s))) = some ((key, v), s) := by
    rw [pair?_eq (hkey _) (hspace s) (hvalue s rest hend), hend.skipSpace_eq]
  have hbracket : c ≠ '[' := ne_of_isBareChar hc (by decide)
  simp only [List.append_assoc, List.cons_append] at hpair ⊢
  rw [statement?]
  · simp only [hpair, hend.lineEnd?_eq, Option.map_some]
  · exact fun _ heq => hbracket (List.cons.inj heq).1
  · exact fun _ heq => hbracket (List.cons.inj heq).1

/-- The text is made of lines that are read as the statements. -/
inductive Lines : List Char → List Statement → Prop
  | nil : Lines [] []
  | cons {line s rest : List Char} {st : Statement} {sts : List Statement} (h : Reads line st)
      (hend : LineEnd s rest) (hrest : Lines rest sts) : Lines (line ++ s) (st :: sts)

theorem Lines.length_le {text : List Char} {sts : List Statement} (h : Lines text sts) :
    sts.length ≤ text.length := by
  induction h with
  | nil => exact Nat.le_refl 0
  | cons h hend _ ih =>
    obtain ⟨c, cs, rfl, -⟩ := h.begins
    cases hend with
    | last => simpa using Nat.le_trans ih (Nat.zero_le cs.length)
    | newline rest =>
      simp only [List.length_cons, List.length_append]
      omega

theorem statements?_cons {line s rest : List Char} {st : Statement} (h : Reads line st)
    (hend : LineEnd s rest) (fuel : Nat) :
    statements? (fuel + 1) (line ++ s) = (statements? fuel rest).map (st :: ·) := by
  have hstatement := h.reads s rest hend
  obtain ⟨c, cs, rfl, hc⟩ := h.begins
  have hhash : c ≠ '#' := hc.ne (by decide)
  have hfeed : c ≠ '\n' := hc.ne (by decide)
  have hreturn : c ≠ '\r' := hc.ne (by decide)
  have hline : newline? (c :: (cs ++ s)) = none := by
    rw [newline?]
    · exact fun _ heq => hfeed (List.cons.inj heq).1
    · exact fun _ heq => hreturn (List.cons.inj heq).1
  rw [List.cons_append] at hstatement ⊢
  rw [statements?, skipSpace_of_begins hc]
  split
  · next heq => cases heq
  · next heq => exact absurd (List.cons.inj heq).1 hhash
  · rw [hline, hstatement]

theorem Lines.statements?_eq {text : List Char} {sts : List Statement} (h : Lines text sts) {fuel : Nat}
    (hfuel : sts.length < fuel) : statements? fuel text = some sts := by
  -- One unit of fuel goes with each line, and one with the end of the text.
  induction h generalizing fuel with
  | nil =>
    cases fuel with
    | zero => exact absurd hfuel (Nat.not_lt_zero _)
    | succ fuel => rfl
  | cons h hend _ ih =>
    cases fuel with
    | zero => exact absurd hfuel (Nat.not_lt_zero _)
    | succ fuel => rw [statements?_cons h hend, ih (Nat.lt_of_succ_lt_succ hfuel), Option.map_some]

/-- There is no byte order mark at the front. -/
theorem Lines.skipMark_eq {text : List Char} {sts : List Statement} (h : Lines text sts) :
    skipMark text = text := by
  cases h with
  | nil => rfl
  | cons h _ _ =>
    obtain ⟨c, cs, rfl, hc⟩ := h.begins
    have hne : c.toNat ≠ 0xFEFF := by
      intro hmark
      have hc' : c = Char.ofNat 0xFEFF := by rw [← hmark, Char.ofNat_toNat]
      exact hc.ne (by decide) hc'
    exact if_neg hne

theorem Lines.read?_eq {text : String} {sts : List Statement} (h : Lines text.toList sts) :
    read? text = assemble? sts := by
  have hlength := h.length_le
  simp only [read?, h.skipMark_eq, h.statements?_eq (Nat.lt_succ_of_le hlength), Option.bind_some]

/-! ## Tables with one text -/

/-- How a table with one text in it is written. -/
inductive Style where
  /-- With a header. -/
  | header
  /-- As a dotted key. -/
  | dotted
  /-- As an inline table. -/
  | inline

namespace Style

/-- The table with that text, which is quoted already, under a key. -/
def write (style : Style) (table key quoted : String) : String :=
  match style with
  | .header => "[" ++ table ++ "]\n" ++ key ++ " = " ++ quoted
  | .dotted => table ++ "." ++ key ++ " = " ++ quoted
  | .inline => table ++ " = \x7b " ++ key ++ " = " ++ quoted ++ " \x7d"

/-- The statements that the table is written with. -/
def statements (style : Style) (table key : String) (v : Value) : List Statement :=
  match style with
  | .header => [.table ⟨[], table⟩, .pair ⟨[], key⟩ v]
  | .dotted => [.pair ⟨[table], key⟩ v]
  | .inline => [.pair ⟨[], table⟩ (.table [(key, v)])]

/-- What stands for the table in a document that is being put together. -/
def item (style : Style) (key : String) (v : Value) : Item :=
  match style with
  | .header => .table .header [(key, .value v)]
  | .dotted => .table .dotted [(key, .value v)]
  | .inline => .value (.table [(key, v)])

theorem seal_item (style : Style) (key : String) (v : Value) : (style.item key v).seal = .table [(key, v)] := by
  cases style <;> simp [item, Item.seal, sealEntries]

end Style

/-- What is written as a table is read as the statements of its style. -/
theorem Style.lines_write (style : Style) {table key : String} (htable : Bare table) (hkey : Bare key)
    {s quoted : String} (h : Quotes s quoted) {e rest : List Char} (hend : LineEnd e rest)
    {sts : List Statement} (hrest : Lines rest sts) :
    Lines ((style.write table key quoted).toList ++ e) (style.statements table key (.string s) ++ sts) := by
  obtain ⟨body, hbody, hquoted⟩ := h
  have hstring : ∀ s' rest', LineEnd s' rest' →
      value? depthLimit ('"' :: (body ++ ['"']) ++ s') = some (.string s, s') := by
    intro s' rest' hend'
    simpa using value?_quoted hbody hend'.head?_ne depthLimit
  cases style with
  | header =>
    have hpair := reads_pair hkey.eq_cons (key?_equals hkey) (fun _ => rfl) hstring
    have hlines := Lines.cons (reads_header htable) (.newline _) (.cons hpair hend hrest)
    simpa [write, statements, equals, hquoted] using hlines
  | dotted =>
    obtain ⟨c, cs, hcs, hc⟩ := htable.eq_cons
    have hbegins : table.toList ++ '.' :: key.toList = c :: (cs ++ '.' :: key.toList) := by
      rw [hcs, List.cons_append]
    have hpair := reads_pair ⟨c, _, hbegins, hc⟩ (key?_dotted_equals htable hkey) (fun _ => rfl) hstring
    simpa [write, statements, equals, hquoted] using Lines.cons hpair hend hrest
  | inline =>
    have hinline : ∀ s' rest', LineEnd s' rest' →
        value? depthLimit ('\x7b' :: ' ' :: (key.toList ++ (equals ++ '"' :: (body ++ ['"', ' ', '\x7d']))) ++ s') =
          some (.table [(key, .string s)], s') := by
      intro s' rest' hend'
      simpa [depthLimit] using value?_inline hkey hbody s' 78
    have hpair := reads_pair htable.eq_cons (key?_equals htable) (fun _ => rfl) hinline
    simpa [write, statements, equals, hquoted] using Lines.cons hpair hend hrest

/-! ## The document -/

namespace Entries

theorem get?_concat {es : Entries} {key : String} (h : es.get? key = none) (item : Item) :
    get? (es ++ [(key, item)]) key = some item := by
  have hfind : es.find? (fun e => e.1 == key) = none := Option.map_eq_none_iff.1 h
  simp [get?, hfind]

theorem set_concat {es : Entries} {key : String} (h : es.get? key = none) (item item' : Item) :
    set (es ++ [(key, item)]) key item' = es ++ [(key, item')] := by
  have hkeep : es.map (fun e => if e.1 == key then (key, item') else e) = es := by
    refine List.map_congr_left (g := id) (fun e he => ?_) |>.trans (List.map_id es)
    simp [get?_eq_none_iff.1 h e he]
  rw [set, List.map_append, hkeep]
  simp

/-- A key without dots is added to a table that lacks it. -/
theorem assign_new {es : Entries} {key : String} (h : es.get? key = none) (v : Value) :
    es.assign [] key v .header = some (es ++ [(key, .value v)]) := by
  simp [assign, within, h]

/-- A dotted key makes the table that is missing. -/
theorem assign_dotted_new {es : Entries} {table : String} (h : es.get? table = none) (key : String) (v : Value) :
    es.assign [table] key v .header = some (es ++ [(table, .table .dotted [(key, .value v)])]) := by
  have hempty : get? [] key = none := rfl
  simp [assign, within, h, hempty]

theorem openTable_new {root : Entries} {table : String} (h : root.get? table = none) :
    root.openTable [] table = some (root ++ [(table, .table .header [])]) := by
  simp [openTable, within, h]

end Entries

/-- A new table is added at the end, provided that a style without headers is not used below one. -/
theorem Style.foldlM_statements (style : Style) {root : Entries} {current : List String} {table : String}
    (hnew : root.get? table = none) (hcurrent : style ≠ .header → current = []) (key : String) (v : Value) :
    ∃ current', (style.statements table key v).foldlM Draft.add ⟨root, current⟩ =
        some ⟨root ++ [(table, style.item key v)], current'⟩ ∧ (style ≠ .header → current' = []) := by
  cases style with
  | header =>
    refine ⟨[table], ?_, fun h => absurd rfl h⟩
    have hkey : Entries.assign [] key v .header [] = some [(key, .value v)] := Entries.assign_new rfl v
    simp [statements, item, Draft.add, Entries.openTable_new hnew, Key.path, Entries.within,
      Entries.get?_concat hnew, hkey, Entries.set_concat hnew]
  | dotted =>
    obtain rfl : current = [] := hcurrent (by simp)
    refine ⟨[], ?_, fun _ => rfl⟩
    simp [statements, item, Draft.add, Entries.within, Entries.assign_dotted_new hnew]
  | inline =>
    obtain rfl : current = [] := hcurrent (by simp)
    refine ⟨[], ?_, fun _ => rfl⟩
    simp [statements, item, Draft.add, Entries.within, Entries.assign_new hnew]

/-- Two tables that are written one after the other are read as these two. -/
theorem Style.assemble?_statements (style : Style) {table table' : String} (hne : table ≠ table')
    (key key' : String) (v v' : Value) :
    assemble? (style.statements table key v ++ style.statements table' key' v') =
      some [(table, .table [(key, v)]), (table', .table [(key', v')])] := by
  have hempty : Entries.get? [] table = none := rfl
  obtain ⟨current, hfirst, hcurrent⟩ := style.foldlM_statements hempty (fun _ => rfl) key v
  have hnew : Entries.get? ([] ++ [(table, style.item key v)]) table' = none := by
    rw [Entries.get?_eq_none_iff]
    simpa using hne
  obtain ⟨_, hsecond, -⟩ := style.foldlM_statements hnew hcurrent key' v'
  rw [assemble?, List.foldlM_append, Draft.empty, hfirst]
  simp only [Option.bind_eq_bind, Option.bind_some, hsecond, Option.map_some]
  simp [sealEntries, seal_item]

/-- Two tables on lines of their own are read back, with or without the end of the last line. -/
theorem Style.read?_write (style : Style) {table key table' key' : String} (htable : Bare table)
    (hkey : Bare key) (htable' : Bare table') (hkey' : Bare key') (hne : table ≠ table') {s quoted : String}
    (h : Quotes s quoted) {s' quoted' : String} (h' : Quotes s' quoted') {ending : String}
    (hending : ending ∈ ["", "\n"]) :
    read? (style.write table key quoted ++ "\n" ++ style.write table' key' quoted' ++ ending) =
      some [(table, .table [(key, .string s)]), (table', .table [(key', .string s')])] := by
  have hlast : LineEnd ending.toList [] := by
    simp only [List.mem_cons, List.not_mem_nil, or_false] at hending
    rcases hending with rfl | rfl
    · exact .last
    · exact .newline []
  have hsecond := style.lines_write htable' hkey' h' hlast .nil
  have hlines := style.lines_write htable hkey h (.newline _) hsecond
  rw [List.append_nil] at hlines
  rw [← style.assemble?_statements hne]
  refine Lines.read?_eq ?_
  simpa using hlines

end Toml

/-- **A manifest that is written is read back.** Whatever the two texts are, and however they are put between
quotes, they are loaded as the program and the directory if they are written in one of the three styles: with
headers, with dotted keys, or as inline tables. The order of the two does not matter, and neither does whether
the last line is ended. Every text can be put between quotes. -/
theorem written_manifest_loads :
    (∀ s, Toml.Quotes s (Toml.quote s)) ∧
    ∀ (program dir quotedProgram quotedDir : String), Toml.Quotes program quotedProgram →
      Toml.Quotes dir quotedDir → ∀ (style : Toml.Style), ∀ ending ∈ ["", "\n"],
        Config.load (style.write "toolchain" "program" quotedProgram ++ "\n" ++
            style.write "scratch" "dir" quotedDir ++ ending) = .ok ⟨program, some dir⟩ ∧
        Config.load (style.write "scratch" "dir" quotedDir ++ "\n" ++
            style.write "toolchain" "program" quotedProgram ++ ending) = .ok ⟨program, some dir⟩ := by
  refine ⟨Toml.quotes_quote, ?_⟩
  intro program dir quotedProgram quotedDir hprogram hdir style ending hending
  have htoolchain : Toml.Bare "toolchain" := by decide
  have hkey : Toml.Bare "program" := by decide
  have hscratch : Toml.Bare "scratch" := by decide
  have hkey' : Toml.Bare "dir" := by decide
  have hread := style.read?_write htoolchain hkey hscratch hkey' (by decide) hprogram hdir hending
  have hread' := style.read?_write hscratch hkey' htoolchain hkey (by decide) hdir hprogram hending
  constructor
  · rw [Config.load_eq_ok hread, Config.ofEntries_eq_ok (Toml.read?_unambiguous hread)]
    exact ⟨some program, some dir, .present (.head _) (.field (.head _)),
      .present (.tail _ (.head _)) (.field (.head _)), rfl⟩
  · rw [Config.load_eq_ok hread', Config.ofEntries_eq_ok (Toml.read?_unambiguous hread')]
    exact ⟨some program, some dir, .present (.tail _ (.head _)) (.field (.head _)),
      .present (.head _) (.field (.head _)), rfl⟩

/-- A text with a quote, a newline and a delete character, each escaped in another way, and an empty one. -/
theorem sample_written_manifest_loads :
    Toml.Quotes "g\"\n\x7f" "\"g\\\"\\n\\u007F\"" ∧ Toml.Quotes "" "\"\"" ∧
    Config.load "scratch = \x7b dir = \"\" \x7d\ntoolchain = \x7b program = \"g\\\"\\n\\u007F\" \x7d" =
      .ok ⟨"g\"\n\x7f", some ""⟩ := by
  have hseven : Toml.Numeral ['0', '0', '7'] 7 :=
    ((Toml.Numeral.nil.digitChar 0 (by decide)).digitChar 0 (by decide)).digitChar 7 (by decide)
  have hdigit : "0123456789ABCDEF".toList[15]? = some 'F' := rfl
  have hdelete : Toml.Numeral ['0', '0', '7', 'F'] 0x7F := hseven.snoc (.tail _ (.head _)) hdigit
  have hprogram : Toml.Quotes "g\"\n\x7f" "\"g\\\"\\n\\u007F\"" :=
    ⟨_, .cons (.plain (c := 'g') (by decide)) (.cons (.named (c := '"') (by decide))
      (.cons (.named (c := '\n') (by decide)) (.cons (.short (c := '\x7f') hdelete rfl) .nil))), rfl⟩
  have hdir : Toml.Quotes "" "\"\"" := ⟨[], .nil, rfl⟩
  exact ⟨hprogram, hdir, (written_manifest_loads.2 _ _ _ _ hprogram hdir .inline "" (by decide)).2⟩

end Conductor
