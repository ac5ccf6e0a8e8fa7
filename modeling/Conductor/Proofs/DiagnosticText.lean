import Mathlib.Data.List.Infix
import Conductor.Decimal.Digits
import Conductor.Diagnostic.Basic

/-!
# Reading a diagnostic off its text

The text of a diagnostic is its lines with newlines between them, and if none of the parts holds a newline,
cutting the text gives the lines back (`pieces_toText`). The first line is read up to its first colon.
Every other line begins with a mark that says what it is, and no mark is the beginning of another one, so it
does not matter what the parts look like: a note that reads like a location is still a note. The text
therefore tells everything that it shows (`lines_inj`).

What it does not show is where a range ends, and whether the numbers at the end of a location are a position
or belong to the name of the file. `path_and_start_of_location` says that nothing else is lost.
-/

namespace Conductor

/-! ## Texts that are put together -/

/-- Of two beginnings neither of which begins the other, no text has both. -/
theorem append_ne_append {m m' : String} (h : ¬ m.toList <+: m'.toList) (h' : ¬ m'.toList <+: m.toList)
    (a b : String) : m ++ a ≠ m' ++ b := by
  intro heq
  have hlist : m.toList ++ a.toList = m'.toList ++ b.toList := by
    rw [← String.toList_append, ← String.toList_append, heq]
  have hm : m.toList <+: m'.toList ++ b.toList := hlist ▸ List.prefix_append ..
  rcases List.prefix_or_prefix_of_prefix hm (List.prefix_append ..) with hle | hge
  · exact h hle
  · exact h' hge

/-- Joined texts are cut where they were joined. -/
theorem pieces_joined_newline {ls : List String} (hne : ls ≠ []) (h : ∀ l ∈ ls, '\n' ∉ l.toList) :
    pieces '\n' (joined "\n" ls).toList = ls.map String.toList := by
  induction ls with
  | nil => exact absurd rfl hne
  | cons l ls ih =>
    obtain ⟨hl, hls⟩ := List.forall_mem_cons.1 h
    cases ls with
    | nil => exact pieces_of_not_mem hl
    | cons l' ls =>
      have htext : (joined "\n" (l :: l' :: ls)).toList =
          l.toList ++ '\n' :: (joined "\n" (l' :: ls)).toList := by
        simp [joined]
      rw [htext, pieces_append_sep, pieces_of_not_mem hl, ih (by simp) hls]
      rfl

/-- An item that may be there is told from what follows it, if nothing that follows looks like it. -/
theorem toList_map_append_inj {α β : Type} {f : α → β} (hf : Function.Injective f) {o o' : Option α}
    {rest rest' : List β} (h : ∀ b ∈ rest, ∀ a, f a ≠ b) (h' : ∀ b ∈ rest', ∀ a, f a ≠ b)
    (heq : o.toList.map f ++ rest = o'.toList.map f ++ rest') : o = o' ∧ rest = rest' := by
  cases o with
  | none =>
    cases o' with
    | none => exact ⟨rfl, heq⟩
    | some a =>
      have hmem : f a ∈ rest := by
        rw [show rest = f a :: rest' from heq]
        exact List.mem_cons_self
      exact absurd rfl (h _ hmem a)
  | some a =>
    cases o' with
    | none =>
      have hmem : f a ∈ rest' := by
        rw [show rest' = f a :: rest from heq.symm]
        exact List.mem_cons_self
      exact absurd rfl (h' _ hmem a)
    | some a' =>
      obtain ⟨ha, hrest⟩ := List.cons.inj heq
      exact ⟨congrArg some (hf ha), hrest⟩

namespace Severity

theorem newline_not_mem_name (s : Severity) : '\n' ∉ s.name.toList := by
  cases s <;> decide

theorem colon_not_mem_name (s : Severity) : ':' ∉ s.name.toList := by
  cases s <;> decide

theorem ofName?_name (s : Severity) : ofName? s.name = some s := by
  cases s <;> rfl

end Severity

namespace Diagnostic

open Severity (newline_not_mem_name colon_not_mem_name ofName?_name)

/-- Nothing that is shown of the diagnostic goes over more than one line. -/
structure OneLined (d : Diagnostic) : Prop where
  message : '\n' ∉ d.message.toList
  help : ∀ s ∈ d.help, '\n' ∉ s.toList
  path : ∀ s ∈ d.path, '\n' ∉ s.toList
  notes : ∀ s ∈ d.notes, '\n' ∉ s.toList

/-! ## The lines -/

theorem OneLined.location {d : Diagnostic} (h : d.OneLined) : ∀ s ∈ d.location?, '\n' ∉ s.toList := by
  have hnumber : ∀ n, '\n' ∉ Nat.toDigits 10 n := Digits.not_mem_ofNat rfl
  unfold location?
  cases hpath : d.path with
  | none => cases d.span <;> simp [hnumber]
  | some path =>
    have hfile : '\n' ∉ path.toList := h.path path hpath
    cases d.span <;> simp [hnumber, hfile]

theorem OneLined.lines {d : Diagnostic} (h : d.OneLined) : ∀ l ∈ d.lines, '\n' ∉ l.toList := by
  intro l hl
  simp only [Diagnostic.lines, List.mem_cons, List.mem_append, List.mem_map, Option.mem_toList] at hl
  rcases hl with rfl | (⟨s, hs, rfl⟩ | ⟨s, hs, rfl⟩) | ⟨s, hs, rfl⟩
  · simp [newline_not_mem_name, h.message]
  · simp [h.location s hs]
  · simp [h.help s hs]
  · simp [h.notes s hs]

/-- The text is cut into the lines. -/
theorem pieces_toText {d : Diagnostic} (h : d.OneLined) :
    pieces '\n' d.toText.toList = d.lines.map String.toList :=
  pieces_joined_newline (List.cons_ne_nil _ _) h.lines

theorem length_lines (d : Diagnostic) :
    d.lines.length = 1 + (if d.path.isSome ∨ d.span.isSome then 1 else 0) +
      (if d.help.isSome then 1 else 0) + d.notes.length := by
  have hlocation : d.location?.toList.length = if d.path.isSome ∨ d.span.isSome then 1 else 0 := by
    unfold location?
    cases d.path <;> cases d.span <;> rfl
  have hhelp : d.help.toList.length = if d.help.isSome then 1 else 0 := by
    cases d.help <;> rfl
  rw [lines, List.length_cons, List.length_append, List.length_append, List.length_map, List.length_map,
    List.length_map, hlocation, hhelp]
  omega

/-- No line is empty, so the text does not end where a line would begin. -/
theorem getLast?_toText_ne {d : Diagnostic} (h : d.OneLined) : d.toText.toList.getLast? ≠ some '\n' := by
  intro hlast
  obtain ⟨front, hfront⟩ := List.getLast?_eq_some_iff.1 hlast
  have hnil : [] ∈ d.lines.map String.toList := by
    rw [← pieces_toText h, hfront, pieces_append_sep]
    simp [pieces]
  obtain ⟨l, hl, hempty⟩ := List.mem_map.1 hnil
  simp only [lines, List.mem_cons, List.mem_append, List.mem_map] at hl
  rcases hl with rfl | (⟨s, -, rfl⟩ | ⟨s, -, rfl⟩) | ⟨s, -, rfl⟩
  all_goals simp at hempty

/-! ## The parts -/

/-- The severity ends at the first colon, and it is known by its name. -/
theorem head_inj {s s' : Severity} {m m' : String} (h : s.name ++ ": " ++ m = s'.name ++ ": " ++ m') :
    s = s' ∧ m = m' := by
  have hlist : s.name.toList ++ ':' :: ' ' :: m.toList = s'.name.toList ++ ':' :: ' ' :: m'.toList := by
    simpa using congrArg String.toList h
  obtain ⟨hname, hrest⟩ := append_sep_inj (colon_not_mem_name s) (colon_not_mem_name s') hlist
  have hsome : some s = some s' := by
    rw [← ofName?_name s, ← ofName?_name s', String.toList_inj.1 hname]
  exact ⟨Option.some.inj hsome, String.toList_inj.1 (List.cons.inj hrest).2⟩

/-- The lines tell all that they show. -/
theorem lines_inj {d e : Diagnostic} (h : d.lines = e.lines) :
    d.severity = e.severity ∧ d.message = e.message ∧ d.help = e.help ∧ d.notes = e.notes ∧
      d.location? = e.location? := by
  have hmark : ∀ mark : String, Function.Injective (mark ++ ·) :=
    fun mark _ _ heq => (String.append_right_inj mark).1 heq
  obtain ⟨hhead, hrest⟩ := List.cons.inj h
  obtain ⟨hseverity, hmessage⟩ := head_inj hhead
  rw [List.append_assoc, List.append_assoc] at hrest
  -- The marks of the hint and of the notes are not the mark of a location.
  have hlocation : ∀ f : Diagnostic, ∀ l ∈ f.help.toList.map ("  = help: " ++ ·) ++
      f.notes.map ("  = note: " ++ ·), ∀ a, " --> " ++ a ≠ l := by
    intro f l hl a
    simp only [List.mem_append, List.mem_map] at hl
    rcases hl with ⟨s, -, rfl⟩ | ⟨s, -, rfl⟩
    · exact append_ne_append (by decide) (by decide) a s
    · exact append_ne_append (by decide) (by decide) a s
  have hhelp : ∀ f : Diagnostic, ∀ l ∈ f.notes.map ("  = note: " ++ ·), ∀ a, "  = help: " ++ a ≠ l := by
    intro f l hl a
    obtain ⟨s, -, rfl⟩ := List.mem_map.1 hl
    exact append_ne_append (by decide) (by decide) a s
  obtain ⟨hplace, hrest⟩ := toList_map_append_inj (hmark _) (hlocation d) (hlocation e) hrest
  obtain ⟨hhint, hnotes⟩ := toList_map_append_inj (hmark _) (hhelp d) (hhelp e) hrest
  exact ⟨hseverity, hmessage, hhint, List.map_injective_iff.2 (hmark _) hnotes, hplace⟩

/-- Diagnostics with one text show the same. -/
theorem toText_eq_iff {d e : Diagnostic} (hd : d.OneLined) (he : e.OneLined) :
    d.toText = e.toText ↔
      d.severity = e.severity ∧ d.message = e.message ∧ d.help = e.help ∧ d.notes = e.notes ∧
        d.location? = e.location? := by
  constructor
  · intro h
    have hlines : d.lines.map String.toList = e.lines.map String.toList := by
      rw [← pieces_toText hd, ← pieces_toText he, h]
    exact lines_inj (List.map_injective_iff.2 (fun _ _ => String.toList_inj.1) hlines)
  · rintro ⟨hseverity, hmessage, hhelp, hnotes, hlocation⟩
    rw [toText, toText, lines, lines, hseverity, hmessage, hhelp, hnotes, hlocation]

/-! ## Locations -/

/-- Where the range begins: its line and its column. -/
def start? (d : Diagnostic) : Option (UInt64 × UInt64) :=
  d.span.map fun span => (span.startLine, span.startCol)

/-- What a location begins with, before the position. -/
def filePart (path : Option String) : String :=
  (path.map (· ++ ":")).getD ""

/-- Texts with a file and a position are read from their end, since no numeral holds a colon. -/
theorem position_inj {p p' : Option String} {l l' c c' : Nat}
    (h : filePart p ++ l.repr ++ ":" ++ c.repr = filePart p' ++ l'.repr ++ ":" ++ c'.repr) :
    p = p' ∧ l = l' ∧ c = c' := by
  have hcolon : ∀ n, ':' ∉ Digits.ofNat n := Digits.not_mem_ofNat rfl
  have hlist : ∀ (s : String) (n : Nat), (s ++ ":" ++ n.repr).toList = s.toList ++ ':' :: Digits.ofNat n := by
    simp [Digits.ofNat]
  have hlast := congrArg String.toList h
  rw [hlist, hlist] at hlast
  obtain ⟨hfront, hcol⟩ := append_sep_inj_of_last (hcolon c) (hcolon c') hlast
  have hc := Digits.ofNat_injective hcol
  -- What is left is a line, with or without a file and a colon in front of it.
  cases p with
  | none =>
    cases p' with
    | none =>
      have hline : Digits.ofNat l = Digits.ofNat l' := by simpa [filePart, Digits.ofNat] using hfront
      exact ⟨rfl, Digits.ofNat_injective hline, hc⟩
    | some file' =>
      have hline : Digits.ofNat l = file'.toList ++ ':' :: Digits.ofNat l' := by
        simpa [filePart, Digits.ofNat] using hfront
      exact absurd (hline ▸ List.mem_append_right _ List.mem_cons_self) (hcolon l)
  | some file =>
    cases p' with
    | none =>
      have hline : file.toList ++ ':' :: Digits.ofNat l = Digits.ofNat l' := by
        simpa [filePart, Digits.ofNat] using hfront
      exact absurd (hline ▸ List.mem_append_right _ List.mem_cons_self) (hcolon l')
    | some file' =>
      have hline : file.toList ++ ':' :: Digits.ofNat l = file'.toList ++ ':' :: Digits.ofNat l' := by
        simpa [filePart, Digits.ofNat] using hfront
      obtain ⟨hfile, hl⟩ := append_sep_inj_of_last (hcolon l) (hcolon l') hline
      exact ⟨congrArg some (String.toList_inj.1 hfile), Digits.ofNat_injective hl, hc⟩

theorem location?_of_span_none {d : Diagnostic} (h : d.span = none) : d.location? = d.path := by
  unfold location?
  rw [h]
  cases d.path <;> rfl

theorem location?_of_span {d : Diagnostic} {span : Span} (h : d.span = some span) :
    d.location? =
      some (filePart d.path ++ span.startLine.toNat.repr ++ ":" ++ span.startCol.toNat.repr) := by
  unfold location? filePart
  rw [h]
  cases d.path <;> simp

/-- Locations that are shown alike are the same, if both have a position or both have none. -/
theorem path_and_start_of_location {d e : Diagnostic} (h : d.location? = e.location?)
    (hspan : d.span.isSome = e.span.isSome) : d.path = e.path ∧ d.start? = e.start? := by
  cases hd : d.span with
  | none =>
    have he : e.span = none := by simpa [hd] using hspan
    rw [location?_of_span_none hd, location?_of_span_none he] at h
    exact ⟨h, by rw [start?, start?, hd, he]⟩
  | some s =>
    obtain ⟨t, he⟩ : ∃ t, e.span = some t := Option.isSome_iff_exists.1 (by rw [← hspan, hd]; rfl)
    rw [location?_of_span hd, location?_of_span he] at h
    obtain ⟨hpath, hline, hcol⟩ := position_inj (Option.some.inj h)
    refine ⟨hpath, ?_⟩
    rw [start?, start?, hd, he, Option.map_some, Option.map_some, UInt64.toNat_inj.1 hline,
      UInt64.toNat_inj.1 hcol]

end Diagnostic

/-- **The text of a diagnostic is unambiguous.** Of diagnostics none of whose parts holds a newline, those
and only those have the same text that have the same severity, message and help (an empty help is not none),
the same notes and the same location, or both none. Locations that are shown alike are of the same file, and
at the same position if they have one, unless one diagnostic has a range and the other has none. The text
has one line for the finding, one for the location if there is a file or a range, one for the help if
there is one, and one for each note; and it does not end in a newline. -/
theorem text_unambiguous :
    (∀ d e : Diagnostic, d.OneLined → e.OneLined →
      (d.toText = e.toText ↔
        d.severity = e.severity ∧ d.message = e.message ∧ d.help = e.help ∧ d.notes = e.notes ∧
          d.location? = e.location?)) ∧
    (∀ d e : Diagnostic, d.location? = e.location? → d.span.isSome = e.span.isSome →
      d.path = e.path ∧ d.start? = e.start?) ∧
    ∀ d : Diagnostic, d.OneLined →
      (pieces '\n' d.toText.toList).length =
        1 + (if d.path.isSome ∨ d.span.isSome then 1 else 0) + (if d.help.isSome then 1 else 0) +
          d.notes.length ∧
      d.toText.toList.getLast? ≠ some '\n' := by
  refine ⟨fun _ _ => Diagnostic.toText_eq_iff, fun _ _ => Diagnostic.path_and_start_of_location, ?_⟩
  intro d h
  refine ⟨?_, Diagnostic.getLast?_toText_ne h⟩
  rw [Diagnostic.pieces_toText h, List.length_map, Diagnostic.length_lines]

namespace Sample

/-- A diagnostic whose parts look like marks, and whose file looks like a file with a position. -/
def disguised : Diagnostic :=
  ⟨.warning, ": --> a", some "", none, some "a:1:2", ["  = help: b", ""]⟩

/-- The same with the position as a range. -/
def ranged : Diagnostic :=
  { disguised with path := some "a", span := some ⟨1, 2, 3, 4⟩ }

end Sample

/-- The two have one text, of five lines, and differ only in what it does not show. -/
theorem sample_text_unambiguous :
    (Sample.disguised.OneLined ∧ Sample.ranged.OneLined) ∧
    Sample.disguised.toText = Sample.ranged.toText ∧
    Sample.disguised ≠ Sample.ranged ∧
    (pieces '\n' Sample.disguised.toText.toList).length = 5 ∧
    Sample.disguised.toText.toList.getLast? ≠ some '\n' := by
  have hdisguised : Sample.disguised.OneLined := by
    constructor <;> decide
  have hranged : Sample.ranged.OneLined := by
    constructor <;> decide
  obtain ⟨hiff, -, hlines⟩ := text_unambiguous
  refine ⟨⟨hdisguised, hranged⟩, (hiff _ _ hdisguised hranged).2 ⟨rfl, rfl, rfl, rfl, by decide⟩,
    by decide, hlines _ hdisguised⟩

end Conductor
