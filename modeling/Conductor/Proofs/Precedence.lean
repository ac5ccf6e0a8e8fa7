import Conductor.Config.Discover
import Conductor.Dispatch
import Conductor.Proofs.LossyText
import Conductor.Proofs.ManifestShape

/-!
# Where the settings come from

A setting has three sources: an environment variable, the manifest, and the default. The first that says
something counts (`Config.Effective`), and a variable whose value is not text says nothing. What counts is then
checked, so a variable can mend or spoil what the manifest says. It cannot mend a manifest that cannot be read,
is not text or is not accepted: that is reported whatever the environment holds.

`discover_precedence` says which of these cases holds and what comes of it, for every system and directory. It
rests on what a manifest says (`Section.Means`), on what text is (`Utf8.decode?_eq_some_iff`), and on what white
space is (`isBlankChar_iff`).

The check looks at what is configured. Where no directory is, scratch files go to the directory of the system for
temporary files, and the environment, which names that directory, is not checked. `discovered_settings_in_effect`
says what the dispatcher gets to work with in the end.
-/

namespace Conductor

variable {τ : Type}

/-! ## Blank texts -/

/-- The numbers of the characters with the Unicode property White_Space. -/
def whiteSpace : List Nat :=
  [0x09, 0x0A, 0x0B, 0x0C, 0x0D, 0x20, 0x85, 0xA0, 0x1680, 0x2000, 0x2001, 0x2002, 0x2003, 0x2004, 0x2005,
    0x2006, 0x2007, 0x2008, 0x2009, 0x200A, 0x2028, 0x2029, 0x202F, 0x205F, 0x3000]

/-- There is nothing but white space in the text. -/
def IsBlank (s : String) : Prop :=
  ∀ c ∈ s.toList, c.toNat ∈ whiteSpace

theorem isBlankChar_iff (c : Char) : isBlankChar c = true ↔ c.toNat ∈ whiteSpace := by
  simp only [isBlankChar, whiteSpace, Bool.or_eq_true, Bool.and_eq_true, decide_eq_true_eq, beq_iff_eq,
    List.mem_cons, List.not_mem_nil, or_false]
  omega

theorem isBlank_iff (s : String) : isBlank s = true ↔ IsBlank s := by
  simp only [isBlank, IsBlank, List.all_eq_true, isBlankChar_iff]

/-! ## Sources -/

theorem Environment.text?_eq_some_iff {e : Environment} {name s : String} :
    e.text? name = some s ↔ e.get? name = some (Utf8.encode s) := by
  unfold Environment.text?
  rw [Option.bind_eq_some_iff]
  constructor
  · rintro ⟨bytes, hget, hdecode⟩
    rwa [← Utf8.decode?_eq_some_iff.1 hdecode]
  · intro hget
    exact ⟨_, hget, Utf8.decode?_eq_some_iff.2 rfl⟩

namespace Config

/-- What counts for a setting: the value of its variable, if that is text, and otherwise what the manifest
says about it, which may be nothing. -/
inductive Effective (e : Environment) (name : String) (said : Option String) : Option String → Prop
  | override {s : String} (h : e.get? name = some (Utf8.encode s)) : Effective e name said (some s)
  | manifest (h : ∀ s, e.get? name ≠ some (Utf8.encode s)) : Effective e name said said

theorem effective_iff {e : Environment} {name : String} {said counts : Option String} :
    Effective e name said counts ↔ counts = (e.text? name).or said := by
  constructor
  · rintro (hs | hs)
    · rw [Environment.text?_eq_some_iff.2 hs]
      rfl
    · cases h : e.text? name with
      | some s => exact absurd (Environment.text?_eq_some_iff.1 h) (hs s)
      | none => rfl
  · rintro rfl
    cases h : e.text? name with
    | some s => exact .override (Environment.text?_eq_some_iff.1 h)
    | none =>
      refine .manifest ?_
      intro s hs
      rw [Environment.text?_eq_some_iff.2 hs] at h
      cases h

/-- A manifest with that text says that about the program and the directory. -/
def TextSets (text : String) (program dir : Option String) : Prop :=
  ∃ entries, Toml.read? text = some entries ∧ Section.toolchain.Means entries program ∧
    Section.scratch.Means entries dir

/-- A text that is loaded is a document, and it is loaded as what it says. -/
theorem load_eq_ok_iff {text : String} {c : Config} :
    load text = .ok c ↔ ∃ program dir, TextSets text program dir ∧ c = ⟨programFor program, dir⟩ := by
  constructor
  · intro h
    cases hread : Toml.read? text with
    | none =>
      rw [load, hread] at h
      cases h
    | some entries =>
      rw [load_eq_ok hread, ofEntries_eq_ok (Toml.read?_unambiguous hread)] at h
      obtain ⟨program, dir, hprogram, hdir, hc⟩ := h
      exact ⟨program, dir, ⟨entries, hread, hprogram, hdir⟩, hc⟩
  · rintro ⟨program, dir, ⟨entries, hread, hprogram, hdir⟩, hc⟩
    rw [load_eq_ok hread, ofEntries_eq_ok (Toml.read?_unambiguous hread)]
    exact ⟨program, dir, hprogram, hdir, hc⟩

/-- The program and the directory that count for a manifest with that text. -/
def Settled (e : Environment) (text program : String) (dir : Option String) : Prop :=
  ∃ said said' counts, TextSets text said said' ∧ Effective e "MOA_TOOLCHAIN" said counts ∧
    program = counts.getD "go" ∧ Effective e "MOA_SCRATCH_DIR" said' dir

/-- Overriding commutes with falling back on the default. -/
theorem override_eq (said said' : Option String) (e : Environment) :
    (Config.mk (programFor said) said').override e =
      ⟨((e.text? "MOA_TOOLCHAIN").or said).getD "go", (e.text? "MOA_SCRATCH_DIR").or said'⟩ := by
  rw [override, programVariable, dirVariable]
  cases e.text? "MOA_TOOLCHAIN" <;> rfl

/-- What counts for a text that is loaded is what was loaded with the overrides applied, and nothing else. -/
theorem settled_iff {text : String} {c : Config} (h : load text = .ok c) {e : Environment} {program : String}
    {dir : Option String} : Settled e text program dir ↔ c.override e = ⟨program, dir⟩ := by
  constructor
  · rintro ⟨said, said', counts, hsaid, hcounts, rfl, hdir⟩
    have hload : load text = .ok ⟨programFor said, said'⟩ := load_eq_ok_iff.2 ⟨said, said', hsaid, rfl⟩
    obtain rfl : c = ⟨programFor said, said'⟩ := Except.ok.inj (h.symm.trans hload)
    rw [effective_iff.1 hcounts, effective_iff.1 hdir, override_eq]
  · intro hc
    obtain ⟨said, said', hsaid, rfl⟩ := load_eq_ok_iff.1 h
    rw [override_eq, Config.mk.injEq] at hc
    exact ⟨said, said', _, hsaid, effective_iff.2 rfl, hc.1.symm, effective_iff.2 hc.2.symm⟩

/-! ## Checking -/

/-- The result is what comes of checking the two settings: the program is looked at first. -/
structure Checked (program : String) (dir : Option String) (r : Except ConfigError Config) : Prop where
  blank : r = .error (.empty "toolchain.program") ↔ IsBlank program
  empty : r = .error (.empty "scratch.dir") ↔ ¬ IsBlank program ∧ dir = some ""
  valid : ∀ c, r = .ok c ↔ ¬ IsBlank program ∧ dir ≠ some "" ∧ c = ⟨program, dir⟩

theorem checked_validate (c : Config) : Checked c.program c.dir c.validate := by
  unfold validate fault?
  by_cases hprogram : isBlank c.program = true
  · have hblank := (isBlank_iff c.program).1 hprogram
    rw [if_pos hprogram]
    constructor <;> simp [hblank]
  have hblank := mt (isBlank_iff c.program).2 hprogram
  rw [if_neg hprogram]
  by_cases hdir : c.dir = some ""
  · rw [if_pos hdir]
    constructor <;> simp [hblank, hdir]
  · rw [if_neg hdir]
    refine ⟨by simp [hblank], by simp [hdir], ?_⟩
    intro c'
    simp only [hblank, hdir, Except.ok.injEq, ne_eq, not_false_eq_true, true_and]
    exact eq_comm

/-! ## Finding -/

/-- The path of the manifest in a directory. -/
def manifestPath (dir : Path) : Path :=
  Path.join dir "moa.toml"

/-- The settings of the directory are taken from that text: it is the manifest and is accepted, or there is
no manifest and it is empty. -/
inductive ManifestText (w : World τ) (dir : Path) : String → Prop
  | file {text : String} {c : Config} (hfile : w.isFile (manifestPath dir) = true)
      (htext : w.readFile (manifestPath dir) = .ok (Utf8.encode text)) (hload : load text = .ok c) :
      ManifestText w dir text
  | noFile (hfile : w.isFile (manifestPath dir) = false) : ManifestText w dir ""

theorem load_empty : load "" = .ok default := by
  decide +kernel

theorem loadFile_unreadable {w : World τ} {p : Path}
    (h : ∀ text, w.readFile p ≠ .ok (Utf8.encode text)) :
    ∃ e, loadFile w p = .error (.read p e) := by
  unfold loadFile
  cases hcontent : w.readFile p with
  | error e => exact ⟨e, rfl⟩
  | ok bytes =>
    cases hdecode : Utf8.decode? bytes with
    | none => exact ⟨.notText, by simp only [hdecode]⟩
    | some text =>
      rw [Utf8.decode?_eq_some_iff.1 hdecode] at hcontent
      exact absurd hcontent (h text)

theorem loadFile_text {w : World τ} {p : Path} {text : String}
    (h : w.readFile p = .ok (Utf8.encode text)) :
    loadFile w p = (load text).mapError (.parse p · (w.wording text)) := by
  simp only [loadFile, h, Utf8.decode?_eq_some_iff.2 (Eq.refl (Utf8.encode text))]
  cases load text <;> rfl

theorem ofDirectory_file {w : World τ} {dir : Path} (h : w.isFile (manifestPath dir) = true) :
    ofDirectory w dir = loadFile w (manifestPath dir) :=
  if_pos h

/-- The text that the settings are taken from is loaded, before any override. -/
theorem ManifestText.ofDirectory_eq {w : World τ} {dir : Path} {text : String} (h : ManifestText w dir text) :
    ∃ c, ofDirectory w dir = .ok c ∧ load text = .ok c := by
  cases h with
  | @file text c hfile htext hload =>
    refine ⟨c, ?_, hload⟩
    rw [ofDirectory_file hfile, loadFile_text htext, hload]
    rfl
  | noFile hfile =>
    refine ⟨default, if_neg ?_, load_empty⟩
    rw [show w.isFile (Path.join dir manifestName) = false from hfile]
    decide

end Config

/-- **The environment overrides the manifest, and the manifest the defaults.** For every system, directory
and environment: a manifest that cannot be read or is not text, or that is not accepted, is reported with its
path whatever the environment holds. Otherwise the settings are taken from its text, or from the empty one where no such file
is: each is the value of its variable if that is text, else what the manifest says, else the default; the
configuration is refused if and only if the program is blank or, failing that, the directory is empty; and if
it is not refused it consists of just these two. -/
theorem discover_precedence (w : World τ) (dir : Path) :
    (w.isFile (Config.manifestPath dir) = true →
      (∀ text, w.readFile (Config.manifestPath dir) ≠ .ok (Utf8.encode text)) →
        ∃ e, Config.discover w dir = .error (.read (Config.manifestPath dir) e)) ∧
    (∀ text e, w.isFile (Config.manifestPath dir) = true →
      w.readFile (Config.manifestPath dir) = .ok (Utf8.encode text) → Config.load text = .error e →
        Config.discover w dir = .error (.parse (Config.manifestPath dir) e (w.wording text))) ∧
    (∀ text, Config.ManifestText w dir text →
      (∃ program d, Config.Settled w.environment text program d) ∧
        ∀ program d, Config.Settled w.environment text program d →
          Config.Checked program d (Config.discover w dir)) := by
  refine ⟨?_, ?_, ?_⟩
  · intro hfile hunreadable
    obtain ⟨e, he⟩ := Config.loadFile_unreadable hunreadable
    refine ⟨e, ?_⟩
    rw [Config.discover, Config.ofDirectory_file hfile, he]
  · intro text e hfile htext hload
    rw [Config.discover, Config.ofDirectory_file hfile, Config.loadFile_text htext, hload]
    rfl
  · intro text htaken
    obtain ⟨c, hdirectory, hload⟩ := htaken.ofDirectory_eq
    refine ⟨⟨_, _, (Config.settled_iff hload).2 rfl⟩, ?_⟩
    intro program d hsettled
    rw [Config.discover, hdirectory]
    show Config.Checked program d (c.override w.environment).validate
    rw [(Config.settled_iff hload).1 hsettled]
    exact Config.checked_validate ⟨program, d⟩

/-- A system with that manifest in its root, and with those variables. -/
def Sample.configured (manifest : Bytes) (bindings : List (String × Bytes)) : World Unit where
  files := .ofNodes [([Utf8.encode "moa.toml"], .file manifest .data)]
  cwd := some []
  environment := ⟨bindings⟩
  behave := fun _ _ files => ⟨[], .exited 0, files, none, none⟩
  wording := fun _ => "a number"
  pid := 7
  clock := fun _ => 5
  drawn := 0
  sizeLimit := none
  openLimit := none
  trace := []

/-- A manifest that is not text, one that is not accepted though its setting is overridden, and one of which
a variable that is not text overrides nothing and an empty one spoils the directory. -/
theorem sample_discover_precedence :
    (∃ e, Config.discover (Sample.configured [0xFF] []) [] = .error (.read (Utf8.encode "moa.toml") e)) ∧
    Config.discover (Sample.configured (Utf8.encode "toolchain=1") [("MOA_TOOLCHAIN", Utf8.encode "p")]) [] =
      .error (.parse (Utf8.encode "moa.toml") (.shape (.type (.integer 1) "struct Toolchain")) "a number") ∧
    (let w := Sample.configured (Utf8.encode "toolchain=['p']")
      [("MOA_TOOLCHAIN", [0xFF]), ("MOA_SCRATCH_DIR", [])]
     Config.ManifestText w [] "toolchain=['p']" ∧ Config.discover w [] = .error (.empty "scratch.dir") ∧
      ∃ program d, Config.Settled w.environment "toolchain=['p']" program d ∧
        ¬ IsBlank program ∧ d = some "") := by
  have hpath : Config.manifestPath [] = Utf8.encode "moa.toml" := rfl
  refine ⟨?_, ?_, ?_⟩
  · have hbytes : (Sample.configured [0xFF] []).readFile (Utf8.encode "moa.toml") = .ok [0xFF] := by
      decide +kernel
    refine (discover_precedence (Sample.configured [0xFF] []) []).1 (by decide +kernel) ?_
    intro text htext
    rw [hpath, hbytes] at htext
    have hdecode := Utf8.decode?_eq_some_iff.2 (Except.ok.inj htext)
    have hnone : Utf8.decode? [0xFF] = none := by decide +kernel
    rw [hnone] at hdecode
    cases hdecode
  · exact (discover_precedence _ []).2.1 "toolchain=1" _ (by decide +kernel) (by decide +kernel)
      (by decide +kernel)
  · intro w
    have htaken : Config.ManifestText w [] "toolchain=['p']" :=
      .file (c := ⟨"p", none⟩) (by decide +kernel) (by decide +kernel) (by decide +kernel)
    have hempty : Config.discover w [] = .error (.empty "scratch.dir") := by decide +kernel
    obtain ⟨⟨program, d, hsettled⟩, hchecked⟩ := (discover_precedence w []).2.2 _ htaken
    exact ⟨htaken, hempty, program, d, hsettled, (hchecked program d hsettled).empty.1 hempty⟩

/-! ## In effect -/

namespace Config

/-- What is loaded for a directory is loaded from some text. -/
theorem exists_manifestText {w : World τ} {dir : Path} {c : Config} (h : ofDirectory w dir = .ok c) :
    ∃ text, ManifestText w dir text := by
  cases hfile : w.isFile (manifestPath dir) with
  | false => exact ⟨"", .noFile hfile⟩
  | true =>
    rw [ofDirectory_file hfile] at h
    by_cases hreadable : ∃ text, w.readFile (manifestPath dir) = .ok (Utf8.encode text)
    · obtain ⟨text, htext⟩ := hreadable
      rw [loadFile_text htext] at h
      cases hload : load text with
      | error e =>
        rw [hload] at h
        cases h
      | ok c' => exact ⟨text, .file hfile htext hload⟩
    · obtain ⟨e, he⟩ := loadFile_unreadable (not_exists.1 hreadable)
      rw [he] at h
      cases h

/-- A configuration that is found consists of the settings that count, and they have passed the check. -/
theorem settled_of_discover {w : World τ} {dir : Path} {c : Config} (h : discover w dir = .ok c) :
    (∃ text, ManifestText w dir text) ∧
    (∀ text, ManifestText w dir text → ∀ program d, Settled w.environment text program d ↔
      c.program = program ∧ c.dir = d) ∧
    ¬ IsBlank c.program ∧ c.dir ≠ some "" := by
  cases hdirectory : ofDirectory w dir with
  | error e =>
    rw [discover, hdirectory] at h
    cases h
  | ok loaded =>
    have hvalid : (loaded.override w.environment).validate = .ok c := by
      rw [discover, hdirectory] at h
      exact h
    obtain ⟨hprogram, hdir, rfl⟩ := ((checked_validate _).valid c).1 hvalid
    refine ⟨exists_manifestText hdirectory, fun text htaken program d => ?_, hprogram, hdir⟩
    obtain ⟨c, hsame, hload⟩ := htaken.ofDirectory_eq
    obtain rfl : loaded = c := Except.ok.inj (hdirectory.symm.trans hsame)
    rw [settled_iff hload, Config.mk.injEq]

/-- The directory for scratch files is empty if it is configured so, or if it is not configured and the
environment says so. -/
theorem scratchDir_eq_nil_iff (c : Config) (e : Environment) :
    c.scratchDir e = [] ↔ c.dir = some "" ∨ c.dir = none ∧ e.get? "TMPDIR" = some [] := by
  unfold scratchDir
  cases c.dir with
  | some s =>
    simp only [Option.some.injEq, reduceCtorEq, false_and, or_false]
    constructor
    · intro h
      have hempty : Utf8.decode? [] = some "" := Utf8.decode?_eq_some_iff.2 rfl
      exact Option.some.inj ((Utf8.decode?_eq_some_iff.2 h.symm).symm.trans hempty)
    · rintro rfl
      rfl
  | none =>
    have hdefault : Utf8.encode "/tmp" ≠ [] := by decide
    simp only [reduceCtorEq, true_and, false_or, temporaryDir, temporaryVariable]
    cases e.get? "TMPDIR" with
    | none => simpa using hdefault
    | some value => simp

end Config

/-- **What is found is not empty in effect, but for one case.** The program that is started with a
configuration that is found is never blank. The directory for scratch files is the empty path if and only if
neither the environment nor the manifest names one, and the variable for the temporary directory of the
system is set and empty. -/
theorem discovered_settings_in_effect {w : World τ} {dir : Path} {c : Config}
    (h : Config.discover w dir = .ok c) (synthesizer : Synthesizer) :
    let d := Dispatcher.ofConfig c w.environment synthesizer
    ¬ IsBlank d.program ∧
    (d.scratchDir = [] ↔
      (∃ text program, Config.ManifestText w dir text ∧ Config.TextSets text program none) ∧
      (∀ s, w.environment.get? "MOA_SCRATCH_DIR" ≠ some (Utf8.encode s)) ∧
      w.environment.get? "TMPDIR" = some []) := by
  obtain ⟨⟨text, htaken⟩, hsettled, hprogram, hdir⟩ := Config.settled_of_discover h
  refine ⟨hprogram, (Config.scratchDir_eq_nil_iff c w.environment).trans ?_⟩
  constructor
  · rintro (hempty | ⟨hnone, htemporary⟩)
    · exact absurd hempty hdir
    -- A directory that does not count is named by neither source.
    obtain ⟨said, said', counts, hsets, -, -, heffective⟩ :=
      (hsettled text htaken c.program none).2 ⟨rfl, hnone⟩
    generalize hcounts : (none : Option String) = d at heffective
    cases heffective with
    | override hs => cases hcounts
    | manifest hno =>
      subst hcounts
      exact ⟨⟨text, said, htaken, hsets⟩, hno, htemporary⟩
  · rintro ⟨⟨text, said, htaken, hsets⟩, hno, htemporary⟩
    have hcounts := (hsettled text htaken _ none).1
      ⟨said, none, _, hsets, Config.effective_iff.2 rfl, rfl, .manifest hno⟩
    exact Or.inr ⟨hcounts.2, htemporary⟩

/-- A manifest that names the program only, in a system whose variable for the temporary directory is empty:
the program counts, and the manifest is seen to name no directory. -/
theorem sample_discovered_settings_in_effect :
    let w := Sample.configured (Utf8.encode "toolchain=['p']") [("TMPDIR", [])]
    Config.discover w [] = .ok ⟨"p", none⟩ ∧ ¬ IsBlank "p" ∧
      ∃ text program, Config.ManifestText w [] text ∧ Config.TextSets text program none := by
  intro w
  have hfound : Config.discover w [] = .ok ⟨"p", none⟩ := by decide +kernel
  obtain ⟨hprogram, hempty⟩ := discovered_settings_in_effect hfound .template
  exact ⟨hfound, hprogram, (hempty.1 rfl).1⟩

/-- The empty path passes the check as the temporary directory of the system, and scratch files go to it. It
does not pass if it is configured. -/
theorem empty_temporary_dir_unchecked :
    let w := Sample.configured [] [("TMPDIR", [])]
    (∃ c, Config.discover w [] = .ok c ∧
      (Dispatcher.ofConfig c w.environment .template).scratchDir = []) ∧
    Config.discover (Sample.configured [] [("MOA_SCRATCH_DIR", [])]) [] = .error (.empty "scratch.dir") := by
  have hfound : Config.discover (Sample.configured [] [("TMPDIR", [])]) [] = .ok default := by decide +kernel
  exact ⟨⟨default, hfound, rfl⟩, by decide +kernel⟩

end Conductor
