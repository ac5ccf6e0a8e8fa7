import Mathlib.Data.List.Forall2
import Conductor.Proofs.Lifetime

/-!
# A driver without scratch files

The scratch file is a detour: a program could as well be handed its text as a value. `Job.answer` is the
driver that does so. It has no process number, no clock, no counter and no trace, it writes no file, and of
the scratch directory it asks only whether a new file could be made there (`World.fault?`) and whether the
text would fit (`Scratch.Writing.ofLimit`). Its answers have a gap wherever the name of the source would
stand, and `Response.resultAt` fills the gap with a path.

`dispatch_refines_stateless` says of every run of dispatches that this driver gives the same answers, call
by call, once the gaps are filled with the path of the scratch file, and leaves the same files. So nothing
passes from one command to the next but what the programs leave in the files.

What programs promise is `ReadsOrDeletesSource`: a program that reads its text from the file at its last
argument does what it would do with the text itself, and of that file it leaves either all, for the process to
remove, or nothing.
-/

namespace Conductor

variable {τ : Type}

/-! ## Answers with a gap for the path -/

/-- A piece of what a program writes: octets, or the name of its source, whatever that is. -/
inductive Piece where
  | octets (b : Bytes)
  | sourceName
  deriving DecidableEq, Repr

/-- What was written, with the name of the source filled in. -/
def fill (p : Path) (output : List Piece) : Bytes :=
  output.flatMap fun
    | .octets b => b
    | .sourceName => p

/-- The result of a command, up to the path of a scratch file. -/
inductive Response where
  | text (s : String)
  /-- What the toolchain wrote. -/
  | output (ps : List Piece)
  | synthesis (e : SynthesisError)
  | artifact (e : SystemError)
  | spawn (program : String) (e : SystemError)
  | toolchain (program : String) (code : Option Int) (ps : List Piece)
  deriving DecidableEq, Repr

namespace Response

/-- The result of a command whose scratch file is at the given path. -/
def resultAt (p : Path) : Response → Except Failure String
  | .text s => .ok s
  | .output ps => .ok (Utf8.decodeLossy (fill p ps))
  | .synthesis e => .error (.synthesis e)
  | .artifact e => .error (.artifact p e)
  | .spawn program e => .error (.spawn program e)
  | .toolchain program code ps => .error (.toolchain program code (Utf8.decodeLossy (fill p ps)))

/-- What a command makes of the response of the toolchain. -/
def printed (command : Command) : Response → Response
  | .text s => .text (command.printed s)
  | .output ps =>
    match command with
    | .build _ => .text ""
    | _ => .output ps
  | r => r

theorem resultAt_printed (p : Path) (command : Command) (r : Response) :
    (r.printed command).resultAt p = (r.resultAt p).map command.printed := by
  cases command <;> cases r <;> rfl

end Response

/-! ## The driver -/

/-- How a program is started that is handed its text as a value. -/
structure Request where
  program : String
  flags : List Bytes
  text : Option Bytes
  environment : Environment
  cwd : Option Place

/-- What such a program does. -/
structure Reply (τ : Type) where
  output : List Piece
  ending : Ending
  files : FileTree τ
  waitError : Option SystemError
  readError : Option SystemError

/-- A call, together with what programs do if they are handed their text as a value. -/
structure Job (τ : Type) where
  call : Call τ
  behaveOnText : τ → Request → FileTree τ → Reply τ

/-- What comes of a call: the result up to a path, and the files that are left. -/
structure Answer (τ : Type) where
  response : Response
  files : FileTree τ

/-- What is made of a reply. -/
def Reply.answer (program : String) (reply : Reply τ) : Answer τ where
  response :=
    match reply.waitError.or reply.readError with
    | some e => .spawn program e
    | none =>
      if reply.ending = .exited 0 then .output reply.output
      else .toolchain program reply.ending.code? reply.output
  files := reply.files

/-- Why no new file with a name of the given length can be opened in a directory. -/
def World.fault? (w : World τ) (dir : Path) (n : Nat) : Option SystemError :=
  if dir.contains 0 then some .nulInPath
  else if Path.lengthLimit < Path.joinedLength dir n then some .nameTooLong
  else if ! w.canOpen 1 then some .tooManyOpenFiles
  else match w.files.host w.cwd dir with
    | .error e => some e
    | .ok place => if Path.nameLimit < n then some .nameTooLong else w.files.closed? place

namespace Job

/-- The circumstances of a call as a world without a past. -/
def scene (j : Job τ) (cwd : Option Place) (files : FileTree τ) : World τ where
  files := files
  cwd := cwd
  environment := j.call.environment
  behave := fun _ _ files => ⟨[], .exited 0, files, none, none⟩
  wording := fun _ => ""
  pid := 0
  clock := fun _ => 0
  drawn := 0
  sizeLimit := j.call.sizeLimit
  openLimit := j.call.openLimit
  trace := []

/-- How the toolchain is asked, with or without a text. -/
def request (j : Job τ) (w : World τ) (text : Option Bytes) : Request where
  program := j.call.dispatcher.program
  flags := j.call.command.flags.map Utf8.encode
  text := text
  environment := w.environment.setAll j.call.command.target.settings
  cwd := w.cwd

/-- Asks the toolchain. -/
def ask (j : Job τ) (w : World τ) (text : Option Bytes) : Answer τ :=
  if ! w.canOpen 3 then ⟨.spawn j.call.dispatcher.program .tooManyOpenFiles, w.files⟩
  else match Toolchain.resolve w j.call.dispatcher.program (j.call.command.flags.map Utf8.encode)
      j.call.command.target.settings with
    | .error e => ⟨.spawn j.call.dispatcher.program e, w.files⟩
    | .ok p => (j.behaveOnText p (j.request w text) w.files).answer j.call.dispatcher.program

/-- Runs a command without scratch files; `n` is the length of the name that a scratch file would have. -/
def answer (j : Job τ) (cwd : Option Place) (n : Nat) (files : FileTree τ) : Answer τ :=
  let w := j.scene cwd files
  match j.call.command.mode? with
  | some mode =>
    match j.call.dispatcher.synthesizer mode none with
    | .error e => ⟨.synthesis e, files⟩
    | .ok source =>
      match (w.fault? j.call.dispatcher.scratchDir n).or
          (Scratch.Writing.ofLimit w.sizeLimit source.bytes).error with
      | some e => ⟨.artifact e, files⟩
      | none =>
        let a := j.ask w (some source.bytes)
        ⟨a.response.printed j.call.command, a.files⟩
  | none =>
    match j.call.command.localOutput? with
    | some s => ⟨.text s, files⟩
    | none => j.ask w none

end Job

/-- Runs commands one after the other. Only the files pass from one to the next. -/
def answers (cwd : Option Place) : List (Job τ × Nat) → FileTree τ → List (Answer τ)
  | [], _ => []
  | (j, n) :: jobs, files =>
    j.answer cwd n files :: answers cwd jobs (j.answer cwd n files).files

/-! ## Whether a scratch file can be opened -/

theorem Path.check_join {name : String} (hplain : Path.IsPlain (Utf8.encode name))
    (hnul : 0 ∉ Utf8.encode name) (dir : Path) :
    Path.check (Path.join dir name) =
      if dir.contains 0 then .error .nulInPath
      else if Path.lengthLimit < Path.joinedLength dir (Utf8.encode name).length then
        .error .nameTooLong
      else .ok () := by
  have hcontains : (Path.join dir name).contains 0 = dir.contains 0 := by
    rw [Bool.eq_iff_iff, List.contains_iff_mem, List.contains_iff_mem]
    exact Path.mem_join (by decide) hnul dir
  rw [Path.check, hcontains, if_neg (Path.join_ne_nil hplain dir), Path.length_join]

/-- Why an attempt failed, if it did. -/
def failure? {ε α : Type} : Except ε α → Option ε
  | .error e => some e
  | .ok _ => none

/-- Opening fails for the reasons that `fault?` gives, and for no other, if nothing is at the path. -/
theorem World.fault?_eq {w : World τ} {dir : Path} {name : String}
    (hplain : Path.IsPlain (Utf8.encode name)) (hnul : 0 ∉ Utf8.encode name)
    (hvacant : ¬ w.files.Present w.cwd (Path.join dir name)) :
    w.fault? dir (Utf8.encode name).length = failure? (w.openNew (Path.join dir name)) := by
  have hcheck := Path.check_join hplain hnul dir
  -- Both sides make their checks in the same order, and a check that fails ends both.
  unfold openNew fault?
  by_cases hdir : dir.contains 0 = true
  · rw [hcheck]
    simp only [if_pos hdir]
    rfl
  rw [if_neg hdir] at hcheck
  rw [if_neg hdir]
  by_cases hlong : Path.lengthLimit < Path.joinedLength dir (Utf8.encode name).length
  · rw [hcheck]
    simp only [if_pos hlong]
    rfl
  rw [if_neg hlong] at hcheck
  rw [if_neg hlong, hcheck]
  cases hopen : w.canOpen 1 with
  | false => rfl
  | true =>
    have hlocate := FileTree.locate_join_eq hplain hcheck w.files w.cwd
    simp only [bind, Except.bind, if_true, Bool.not_true, Bool.false_eq_true, if_false]
    cases hhost : w.files.host w.cwd dir with
    | error e =>
      rw [hhost] at hlocate
      simp [FileTree.vacancy, hlocate, bind, Except.bind, failure?]
    | ok place =>
      rw [hhost] at hlocate
      by_cases hname : Path.nameLimit < (Utf8.encode name).length
      · simp [FileTree.vacancy, hlocate, FileTree.spot, hname, bind, Except.bind, failure?]
      · have hplace : w.files.locate w.cwd (Path.join dir name) =
            .ok (place ++ [Utf8.encode name]) := by
          simp [hlocate, FileTree.spot, hname, Except.bind]
        have hnone : w.files.node? (place ++ [Utf8.encode name]) = none := by
          rw [Option.eq_none_iff_forall_not_mem]
          intro node hnode
          exact hvacant (FileTree.present_iff.2 ⟨_, node, hplace, hnode⟩)
        have hrefusal : w.files.refusal? (place ++ [Utf8.encode name]) = w.files.closed? place := by
          rw [FileTree.refusal?, List.dropLast_concat]
        -- What is left to fail is the directory that is closed.
        simp only [FileTree.vacancy, hplace, bind, Except.bind, hnone, hrefusal, if_neg hname]
        cases w.files.closed? place with
        | some e => rfl
        | none => rfl

theorem World.fault?_congr {v w : World τ} (hfiles : FileTree.Same v.files w.files)
    (hcwd : v.cwd = w.cwd) (hlimit : v.openLimit = w.openLimit) (dir : Path) (n : Nat) :
    v.fault? dir n = w.fault? dir n := by
  unfold World.fault? World.canOpen
  simp only [hlimit, hcwd, hfiles.host, hfiles.closed]

/-! ## Finding the program past the scratch file -/

/-- The places that the search for a program leads through, in the environment that it is started in. -/
def programTrail (cwd : Option Place) (e : Environment) (name : String) : List Place :=
  if (Utf8.encode name).contains Path.slash then FileTree.trail cwd (Utf8.encode name)
  else (World.searchPath e).flatMap fun dir => FileTree.trail cwd (Path.join dir name)

theorem FileTree.programAt_congr {t u : FileTree τ} {cwd : Option Place} {p : Path}
    (h : ∀ place ∈ trail cwd p, t.node? place = u.node? place) :
    t.programAt cwd p = u.programAt cwd p := by
  unfold programAt
  rw [find_congr h]

theorem FileTree.searchProgram_congr {t u : FileTree τ} {cwd : Option Place} {name : String}
    {dirs : List Path} (last : SystemError)
    (h : ∀ place ∈ dirs.flatMap fun dir => trail cwd (Path.join dir name), t.node? place = u.node? place) :
    t.searchProgram cwd name last dirs = u.searchProgram cwd name last dirs := by
  induction dirs generalizing last with
  | nil => rfl
  | cons dir dirs ih =>
    rw [List.flatMap_cons] at h
    simp only [searchProgram,
      programAt_congr fun place hplace => h place (List.mem_append_left _ hplace),
      fun last => ih last fun place hplace => h place (List.mem_append_right _ hplace)]

theorem World.findProgram_congr {v w : World τ} {e : Environment} {name : String} (hcwd : v.cwd = w.cwd)
    (h : ∀ place ∈ programTrail w.cwd e name, v.files.node? place = w.files.node? place) :
    v.findProgram e name = w.findProgram e name := by
  unfold findProgram
  rw [hcwd]
  unfold programTrail at h
  split
  · next hslash =>
    rw [if_pos hslash] at h
    exact FileTree.programAt_congr h
  · next hslash =>
    rw [if_neg hslash] at h
    rw [FileTree.searchProgram_congr _ h]

/-- Which program is started does not depend on an argument that can be handed over. -/
theorem Toolchain.resolve_congr {v w : World τ} {program : String} {args args' : List Bytes}
    {vars : List (String × String)} (hcwd : v.cwd = w.cwd) (henvironment : v.environment = w.environment)
    (hlimit : v.openLimit = w.openLimit)
    (h : ∀ place ∈ programTrail w.cwd (w.environment.setAll vars) program,
      v.files.node? place = w.files.node? place)
    (hargs : (args.all fun a => ! a.contains 0) = args'.all fun a => ! a.contains 0) :
    resolve v program args vars = resolve w program args' vars := by
  unfold resolve isPassable World.canOpen
  rw [hargs, hlimit, henvironment, World.findProgram_congr hcwd h]

/-! ## What programs promise -/

/-- A program says what the reply says, the name of the source filled in, and ends in the same way; and the
process learns of it, or not, in the same way. -/
structure ConductMatches (path : Path) (conduct : Conduct τ) (reply : Reply τ) : Prop where
  output : conduct.output = fill path reply.output
  ending : conduct.ending = reply.ending
  waitError : conduct.waitError = reply.waitError
  readError : conduct.readError = reply.readError

/-- A program did with the text in a file what it does with the text as a value, and of the file it left
nothing, or all of it in a directory from which it can be removed. -/
structure Agrees (cwd : Option Place) (path : Path) (place : Place) (text : Bytes) (conduct : Conduct τ)
    (reply : Reply τ) : Prop extends ConductMatches path conduct reply where
  others : ∀ other, other ≠ place → conduct.files.node? other = reply.files.node? other ∧
    conduct.files.closed? other = reply.files.closed? other
  unmade : reply.files.node? place = none
  own : conduct.files.node? place = none ∨
    conduct.files.find cwd path = .ok (.file text .data) ∧ conduct.files.refusal? place = none

/-- Programs that touch a scratch file only as their last argument, by reading or deleting it. -/
structure ReadsOrDeletesSource (behave : τ → Launch → FileTree τ → Conduct τ)
    (behaveOnText : τ → Request → FileTree τ → Reply τ) : Prop where
  /-- Without a text there is no difference. -/
  plain : ∀ p program args environment cwd t u, FileTree.Same t u →
    (∀ path, ConductMatches path (behave p ⟨program, args, environment, cwd⟩ t)
      (behaveOnText p ⟨program, args, none, environment, cwd⟩ u)) ∧
    FileTree.Same (behave p ⟨program, args, environment, cwd⟩ t).files
      (behaveOnText p ⟨program, args, none, environment, cwd⟩ u).files
  /-- With a text, the files differ by the scratch file at most. -/
  source : ∀ p program flags environment cwd t u dir pid nanos counter place text,
    u.vacancy cwd (Path.join dir (Scratch.name pid nanos counter)) = .ok place →
    FileTree.Same t (u.put place (.file text .data)) →
    Agrees cwd (Path.join dir (Scratch.name pid nanos counter)) place text
      (behave p ⟨program, flags ++ [Path.join dir (Scratch.name pid nanos counter)], environment, cwd⟩ t)
      (behaveOnText p ⟨program, flags, some text, environment, cwd⟩ u)

theorem ConductMatches.result {path : Path} {conduct : Conduct τ} {reply : Reply τ}
    (h : ConductMatches path conduct reply) (program : String) :
    (Toolchain.verdict program conduct).map Toolchain.Outcome.output =
      (reply.answer program).response.resultAt path := by
  unfold Toolchain.verdict Conduct.unlearned? Reply.answer
  rw [h.output, h.ending, h.waitError, h.readError]
  cases reply.waitError.or reply.readError with
  | some e => rfl
  | none =>
    by_cases hzero : reply.ending = .exited 0
    · simp [hzero, Except.map, Response.resultAt]
    · simp [hzero, Except.map, Response.resultAt]

/-- Without the scratch file, if it is still there, the files are those of the reply. -/
theorem Agrees.same_without {t : FileTree τ} {cwd : Option Place} {path : Path} {place : Place}
    {text : Bytes} {conduct : Conduct τ} {reply : Reply τ}
    (h : Agrees cwd path place text conduct reply) (hplace : t.locate cwd path = .ok place) :
    FileTree.Same (conduct.files.without cwd path) reply.files := by
  have hgone : (conduct.files.without cwd path).node? place = none := by
    rcases h.own with hnone | ⟨hfind, hopen⟩
    · rcases conduct.files.node?_without cwd path place with hsame | ⟨-, hgone⟩
      · rw [hsame, hnone]
      · exact hgone
    · obtain ⟨there, hl, hn⟩ := FileTree.find_eq_ok.1 hfind
      obtain rfl := FileTree.locate_unique hplace hl
      exact FileTree.node?_without_self hl (by simp [hn]) hopen
  have helsewhere : ∀ other, other ≠ place → conduct.files.locate cwd path ≠ .ok other :=
    fun other hother hl => hother (FileTree.locate_unique hl hplace)
  constructor
  · intro other
    by_cases hother : other = place
    · rw [hother, hgone, h.unmade]
    · rcases conduct.files.node?_without cwd path other with hsame | ⟨hl, -⟩
      · rw [hsame, (h.others other hother).1]
      · exact absurd hl (helsewhere other hother)
  · intro other
    by_cases hother : other = place
    · rw [hother, FileTree.closed?_eq_none hgone, FileTree.closed?_eq_none h.unmade]
    · rw [FileTree.closed?_without _ _ _ (helsewhere other hother), (h.others other hother).2]

/-! ## One call -/

namespace CallRun

/-- The length of the name that a call has for a scratch file. -/
def nameLength (t : CallRun τ) : Nat :=
  (Utf8.encode t.initial.nextName).length

/-- The places that the search for the program of a call leads through. -/
def searched (t : CallRun τ) : List Place :=
  programTrail t.initial.cwd (t.initial.environment.setAll t.call.command.target.settings)
    t.call.dispatcher.program

/-- The scratch file of a call is new, and the program that the call asks for is not looked for in it. -/
structure Fresh (t : CallRun τ) : Prop where
  vacant : ¬ t.initial.files.Present t.initial.cwd t.path
  apart : ∀ place, t.initial.files.locate t.initial.cwd t.path = .ok place → place ∉ t.searched

instance (t : CallRun τ) : Decidable t.Fresh :=
  decidable_of_iff (¬ t.initial.files.Present t.initial.cwd t.path ∧
    ∀ place ∈ (t.initial.files.locate t.initial.cwd t.path).toOption, place ∉ t.searched) (by
    constructor
    · rintro ⟨hvacant, hapart⟩
      refine ⟨hvacant, fun place hplace => hapart place ?_⟩
      rw [hplace]
      rfl
    · rintro ⟨hvacant, hapart⟩
      refine ⟨hvacant, fun place hplace => hapart place ?_⟩
      cases hl : t.initial.files.locate t.initial.cwd t.path with
      | error e => simp [hl, Except.toOption] at hplace
      | ok there => simpa [hl, Except.toOption] using hplace)

end CallRun

/-- An answer is what came of a call, the path of the scratch file filled in. -/
structure AnswerMatches (a : Answer τ) (t : CallRun τ) : Prop where
  result : t.result = a.response.resultAt t.path
  files : FileTree.Same t.final.files a.files

/-- A run of the toolchain that finds the same program, which says the same, has the same result as the
question of the driver without scratch files. -/
theorem Job.ask_of_invocation (j : Job τ) {s v v' : World τ} {args : List Bytes} {text : Option Bytes}
    {path : Path} {launch : Launch} {r : Except Failure Toolchain.Outcome}
    (h : Toolchain.Invocation j.call.dispatcher.program args j.call.command.target.settings v r v')
    (hlimit : v.openLimit = s.openLimit)
    (hresolve : Toolchain.resolve v j.call.dispatcher.program args j.call.command.target.settings =
      Toolchain.resolve s j.call.dispatcher.program (j.call.command.flags.map Utf8.encode)
        j.call.command.target.settings)
    (hlaunch : Toolchain.launchFrom v j.call.dispatcher.program args j.call.command.target.settings =
      launch)
    (hconduct : ∀ p, ConductMatches path (v.behave p launch v.files)
      (j.behaveOnText p (j.request s text) s.files)) :
    r.map Toolchain.Outcome.output = (j.ask s text).response.resultAt path ∧
      (v'.files = v.files ∧ (j.ask s text).files = s.files ∨
        ∃ p, v'.files = (v.behave p launch v.files).files ∧
          (j.ask s text).files = (j.behaveOnText p (j.request s text) s.files).files) := by
  have hopen : ∀ n, v.canOpen n = s.canOpen n := by
    intro n
    rw [World.canOpen, World.canOpen, hlimit]
  -- The circumstances are the same, so the three ways in which a run can go match one by one.
  unfold Job.ask
  rw [← hopen, ← hresolve]
  cases h with
  | unpiped hpipe =>
    rw [hpipe]
    exact ⟨rfl, Or.inl ⟨rfl, rfl⟩⟩
  | unstarted e hpipe hr =>
    rw [hpipe, hr]
    exact ⟨rfl, Or.inl ⟨rfl, rfl⟩⟩
  | ended p conduct hpipe hr hc =>
    rw [hlaunch] at hc
    subst hc
    rw [hpipe, hr]
    exact ⟨(hconduct p).result _, Or.inr ⟨p, rfl, rfl⟩⟩

section OneCall

variable (j : Job τ) (w : World τ) {files : FileTree τ} {r : Except Failure String} {v : World τ}

theorem CallRun.Fresh.fault?_eq (hfresh : (j.call.run w).Fresh) (hfiles : FileTree.Same w.files files)
    {o : Except SystemError Place} (ho : (j.call.enter w).openNew (j.call.run w).path = o) :
    (j.scene w.cwd files).fault? j.call.dispatcher.scratchDir (j.call.run w).nameLength =
      failure? o := by
  have hsame : (j.call.enter w).fault? j.call.dispatcher.scratchDir (j.call.run w).nameLength =
      (j.scene w.cwd files).fault? j.call.dispatcher.scratchDir
        (j.call.run w).nameLength :=
    World.fault?_congr (v := j.call.enter w) (w := j.scene w.cwd files) hfiles rfl rfl _ _
  rw [← hsame, ← ho]
  exact World.fault?_eq (Scratch.isPlain_encode_name _ _ _) (Scratch.nul_not_mem_encode_name _ _ _)
    hfresh.vacant

/-- The program that is found past the scratch file is the one that is found without it. -/
theorem CallRun.Fresh.resolve_eq (hfresh : (j.call.run w).Fresh) (hfiles : FileTree.Same w.files files)
    {place : Place} (ho : (j.call.enter w).openNew (j.call.run w).path = .ok place)
    (hcwd : v.cwd = w.cwd) (henvironment : v.environment = j.call.environment)
    (hlimit : v.openLimit = j.call.openLimit) {node : Node τ}
    (hput : v.files = w.files.put place node) :
    Toolchain.resolve v j.call.dispatcher.program
        (j.call.command.flags.map Utf8.encode ++ [(j.call.run w).path]) j.call.command.target.settings =
      Toolchain.resolve (j.scene w.cwd files) j.call.dispatcher.program
        (j.call.command.flags.map Utf8.encode) j.call.command.target.settings := by
  obtain ⟨hlocate, hnone, -⟩ := FileTree.vacancy_eq_ok.1 (World.openNew_eq_ok.1 ho).2
  refine Toolchain.resolve_congr (w := j.scene w.cwd files) hcwd henvironment hlimit ?_ ?_
  · intro other hother
    have hne : other ≠ place := by
      rintro rfl
      exact hfresh.apart other hlocate hother
    rw [hput, FileTree.node?_put _ (FileTree.ne_nil_of_node?_eq_none hnone), if_neg hne]
    exact hfiles.node other
  · have hcheck := (FileTree.locate_eq_ok.1 hlocate).1
    have hnul : 0 ∉ (j.call.run w).path := by
      unfold Path.check at hcheck
      split at hcheck
      · cases hcheck
      · next h => simpa using h
    simp [hnul]

theorem Job.matches_of_compile {mode : Mode} {record : Event τ}
    (htools : ReadsOrDeletesSource j.call.behave j.behaveOnText)
    (hfresh : j.call.HasText → (j.call.run w).Fresh) (hfiles : FileTree.Same w.files files)
    (hm : j.call.command.mode? = some mode)
    (hc : j.call.dispatcher.CompileOutcome mode j.call.command.flags j.call.command.target.settings
      ((j.call.enter w).after w.files w.drawn [record]) r v) :
    r.map j.call.command.printed = (j.answer w.cwd (j.call.run w).nameLength
        files).response.resultAt (j.call.run w).path ∧
      FileTree.Same v.files
        (j.answer w.cwd (j.call.run w).nameLength files).files := by
  cases hc with
  | refused e hs =>
    simp only [Job.answer, hm, hs]
    exact ⟨rfl, hfiles⟩
  | uncreated source e hs ho =>
    have hfault := (hfresh ⟨mode, source, hm, hs⟩).fault?_eq j w hfiles ho
    simp only [Job.answer, hm, hs, hfault, failure?, Option.some_or]
    exact ⟨rfl, hfiles⟩
  | unwritten source place e hs ho he =>
    have hfault := (hfresh ⟨mode, source, hm, hs⟩).fault?_eq j w hfiles ho
    have hlimit : (Scratch.Writing.ofLimit (j.scene w.cwd files).sizeLimit
      source.bytes).error = some e := he
    simp only [Job.answer, hm, hs, hfault, failure?, Option.none_or, hlimit]
    refine ⟨rfl, ?_⟩
    generalize hworld : World.created _ _ _ _ _ = v
    obtain ⟨hleft, -⟩ := World.release_put (w := j.call.enter w) (v := v) (World.openNew_eq_ok.1 ho).2
      (by rw [← hworld]; rfl) (by rw [← hworld]; rfl)
    rw [hleft]
    exact hfiles
  | used source place r v' hs ho he hi =>
    have hnew := hfresh ⟨mode, source, hm, hs⟩
    have hfault := hnew.fault?_eq j w hfiles ho
    have hlimit : (Scratch.Writing.ofLimit (j.scene w.cwd files).sizeLimit
      source.bytes).error = none := he
    have hvacant : w.files.vacancy w.cwd (j.call.run w).path = .ok place := (World.openNew_eq_ok.1 ho).2
    have hvacant' : files.vacancy w.cwd (j.call.run w).path = .ok place := by
      rw [← hfiles.vacancy, hvacant]
    obtain ⟨hlocate, hnone, -⟩ := FileTree.vacancy_eq_ok.1 hvacant
    have hput := hfiles.put (FileTree.ne_nil_of_node?_eq_none hnone) (.file source.bytes .data)
    -- The files that the program sees are those of the other driver and the scratch file.
    have hagrees := fun p => htools.source p j.call.dispatcher.program
      (j.call.command.flags.map Utf8.encode)
      (j.call.environment.setAll j.call.command.target.settings) w.cwd _ files
      j.call.dispatcher.scratchDir w.pid (w.clock w.drawn) (UInt64.ofNat (w.drawn + 1)) place
      source.bytes hvacant' hput
    obtain ⟨hresult, hends⟩ := j.ask_of_invocation (s := j.scene w.cwd files) hi rfl
      (by apply hnew.resolve_eq j w hfiles ho <;> rfl) rfl (fun p => (hagrees p).toConductMatches)
    simp only [Job.answer, hm, hs, hfault, failure?, Option.none_or, hlimit]
    rw [Response.resultAt_printed]
    refine ⟨congrArg _ hresult, ?_⟩
    obtain ⟨left, events, hworld, -⟩ := hi.actions
    have hcwd : v'.cwd = w.cwd := by
      rw [hworld]
      rfl
    -- If nothing was started, the removal gives back the files; otherwise it takes away what the program left
    -- of the scratch file.
    rcases hends with ⟨hkept, hask⟩ | ⟨p, hleft, hask⟩
    · obtain ⟨hback, -⟩ := World.release_put (v := v') hvacant hcwd hkept
      rw [hask]
      exact hback ▸ hfiles
    · rw [hask, World.release_eq_after, World.after_files, hleft, hcwd]
      exact (hagrees p).same_without hlocate

theorem Job.matches_of_dispatch (htools : ReadsOrDeletesSource j.call.behave j.behaveOnText)
    (hfresh : j.call.HasText → (j.call.run w).Fresh) (hfiles : FileTree.Same w.files files)
    (hd : j.call.dispatcher.DispatchOutcome j.call.command (j.call.enter w) r v) :
    r = (j.answer w.cwd (j.call.run w).nameLength files).response.resultAt
        (j.call.run w).path ∧
      FileTree.Same v.files
        (j.answer w.cwd (j.call.run w).nameLength files).files := by
  cases hd with
  | answered output h =>
    simp only [Job.answer, Command.mode?_of_localOutput? h, h]
    exact ⟨rfl, hfiles⟩
  | asked h r v hi =>
    have hm : j.call.command.mode? = none := by
      rw [h]
      rfl
    have hlocal : j.call.command.localOutput? = none := by
      rw [h]
      rfl
    have hplain := fun p => htools.plain p j.call.dispatcher.program
      (j.call.command.flags.map Utf8.encode)
      (j.call.environment.setAll j.call.command.target.settings) w.cwd w.files files hfiles
    obtain ⟨hresult, hends⟩ := j.ask_of_invocation (s := j.scene w.cwd files) hi rfl
      (by refine Toolchain.resolve_congr ?_ ?_ ?_ (fun place _ => hfiles.node place) rfl <;> rfl) rfl
      (fun p => (hplain p).1 (j.call.run w).path)
    simp only [Job.answer, hm, hlocal]
    refine ⟨hresult, ?_⟩
    rcases hends with ⟨hkept, hask⟩ | ⟨p, hleft, hask⟩
    · rw [hkept, hask]
      exact hfiles
    · rw [hleft, hask]
      exact (hplain p).2
  | compiled mode h r v hc => exact j.matches_of_compile w htools hfresh hfiles h hc

/-- The step: what the driver without scratch files answers is what comes of the call. -/
theorem Job.answer_matches (htools : ReadsOrDeletesSource j.call.behave j.behaveOnText)
    (hfresh : j.call.HasText → (j.call.run w).Fresh) (hfiles : FileTree.Same w.files files) :
    AnswerMatches (j.answer w.cwd (j.call.run w).nameLength files) (j.call.run w) := by
  obtain ⟨hresult, hleft⟩ := j.matches_of_dispatch w htools hfresh hfiles
    (j.call.dispatcher.dispatch_outcome j.call.command (j.call.enter w))
  exact ⟨hresult, hleft⟩

end OneCall

/-! ## Whole runs -/

/-- The run: the answers tell what comes of the calls, one by one, as long as both sides start from the
same files. -/
theorem answers_match (jobs : List (Job τ)) (w : World τ) (files : FileTree τ)
    (htools : ∀ j ∈ jobs, ReadsOrDeletesSource j.call.behave j.behaveOnText)
    (hfresh : ∀ t ∈ runCalls (jobs.map Job.call) w, t.call.HasText → t.Fresh)
    (hfiles : FileTree.Same w.files files) :
    List.Forall₂ AnswerMatches
      (answers w.cwd (jobs.zip ((runCalls (jobs.map Job.call) w).map CallRun.nameLength)) files)
      (runCalls (jobs.map Job.call) w) := by
  induction jobs generalizing w files with
  | nil => exact .nil
  | cons j jobs ih =>
    have hmatches := j.answer_matches w (htools j List.mem_cons_self)
      (hfresh (j.call.run w) List.mem_cons_self) hfiles
    -- The next call starts from the files that both sides left.
    refine .cons hmatches ?_
    rw [← j.call.run_final_cwd w] at hmatches ⊢
    exact ih _ _ (fun j' hj' => htools j' (List.mem_cons_of_mem j hj'))
      (fun t ht => hfresh t (List.mem_cons_of_mem _ ht)) hmatches.files

/-- The system takes a name of the given length, and the path of such a name in the directory. -/
def Path.Admits (dir : Path) (n : Nat) : Prop :=
  Path.joinedLength dir n ≤ Path.lengthLimit ∧ n ≤ Path.nameLimit

theorem World.fault?_of_admits (w : World τ) {dir : Path} {m n : Nat} (hm : Path.Admits dir m)
    (hn : Path.Admits dir n) : w.fault? dir m = w.fault? dir n := by
  unfold World.fault?
  simp only [if_neg (Nat.not_lt.2 hm.1), if_neg (Nat.not_lt.2 hn.1), if_neg (Nat.not_lt.2 hm.2),
    if_neg (Nat.not_lt.2 hn.2)]

theorem Job.answer_of_admits (j : Job τ) {m n : Nat}
    (hm : Path.Admits j.call.dispatcher.scratchDir m) (hn : Path.Admits j.call.dispatcher.scratchDir n)
    (cwd : Option Place) (files : FileTree τ) :
    j.answer cwd m files = j.answer cwd n files := by
  simp only [Job.answer, World.fault?_of_admits _ hm hn]

/-- Two calls that find the same files have the same result, up to the paths of their scratch files. -/
theorem Job.result_of_same_files (j : Job τ) (htools : ReadsOrDeletesSource j.call.behave j.behaveOnText)
    {u v : World τ} (hu : j.call.HasText → (j.call.run u).Fresh)
    (hv : j.call.HasText → (j.call.run v).Fresh) (hcwd : u.cwd = v.cwd)
    (hfiles : FileTree.Same u.files v.files)
    (hadmitted : Path.Admits j.call.dispatcher.scratchDir (j.call.run u).nameLength)
    (hadmitted' : Path.Admits j.call.dispatcher.scratchDir (j.call.run v).nameLength) :
    ∃ response : Response,
      (j.call.run u).result = response.resultAt (j.call.run u).path ∧
      (j.call.run v).result = response.resultAt (j.call.run v).path ∧
      FileTree.Same (j.call.run u).final.files (j.call.run v).final.files := by
  have hleft := j.answer_matches u htools hu hfiles
  have hright := j.answer_matches v htools hv (FileTree.Same.refl v.files)
  rw [j.answer_of_admits hadmitted hadmitted', hcwd] at hleft
  exact ⟨_, hleft.result, hright.result, hleft.files.trans hright.files.symm⟩

/-- **The driver refines one without scratch files.** Of every run of dispatches, whatever the files, the
configurations, the environments, the limits and the programs are, as long as the programs touch scratch
files only as their last argument, by reading or deleting them, and the names of scratch files are new:

* call by call, the driver that hands over texts as values gives the same result, up to the path of the
  scratch file, and leaves the same files;
* so two calls that find the same files, whatever came before them in their processes, have the same
  result up to the paths, if the system takes names as long as theirs. -/
theorem dispatch_refines_stateless (jobs : List (Job τ)) (w : World τ)
    (htools : ∀ j ∈ jobs, ReadsOrDeletesSource j.call.behave j.behaveOnText)
    (hfresh : ∀ t ∈ runCalls (jobs.map Job.call) w, t.call.HasText → t.Fresh) :
    List.Forall₂ AnswerMatches
      (answers w.cwd (jobs.zip ((runCalls (jobs.map Job.call) w).map CallRun.nameLength)) w.files)
      (runCalls (jobs.map Job.call) w) ∧
    ∀ j ∈ jobs, ∀ u v : World τ,
      (j.call.HasText → (j.call.run u).Fresh) → (j.call.HasText → (j.call.run v).Fresh) →
      u.cwd = v.cwd → FileTree.Same u.files v.files →
      Path.Admits j.call.dispatcher.scratchDir (j.call.run u).nameLength →
      Path.Admits j.call.dispatcher.scratchDir (j.call.run v).nameLength →
      ∃ response : Response,
        (j.call.run u).result = response.resultAt (j.call.run u).path ∧
        (j.call.run v).result = response.resultAt (j.call.run v).path ∧
        FileTree.Same (j.call.run u).final.files (j.call.run v).final.files := by
  refine ⟨answers_match jobs w w.files htools hfresh (FileTree.Same.refl w.files), ?_⟩
  intro j hj u v hu hv hcwd hfiles hadmitted hadmitted'
  exact j.result_of_same_files (htools j hj) hu hv hcwd hfiles hadmitted hadmitted'

namespace Sample

/-- A program that prints its version, or the name and the content of its source, which it deletes. -/
def telling : Unit → Launch → FileTree Unit → Conduct Unit := fun _ launch files =>
  if launch.args = [Utf8.encode "version"] then
    ⟨[(.output, Utf8.encode "1")], .exited 0, files, none, none⟩
  else
    let path := launch.args.getLast?.getD []
    ⟨[(.output, path), (.output, (files.read launch.cwd path).toOption.getD [])], .exited 0,
      files.without launch.cwd path, none, none⟩

/-- The same program, which prints its text if it is handed one. -/
def tellingValue : Unit → Request → FileTree Unit → Reply Unit := fun p request files =>
  match request.text with
  | some text => ⟨[.sourceName, .octets text], .exited 0, files, none, none⟩
  | none =>
    let conduct := telling p ⟨request.program, request.flags, request.environment, request.cwd⟩ files
    ⟨[.octets conduct.output], conduct.ending, conduct.files, conduct.waitError, conduct.readError⟩

theorem isPlain_version : Path.IsPlain (Utf8.encode "version") := by
  constructor <;> decide

/-- The argument of the question for the version leads nowhere where a scratch file is. -/
theorem locate_version_ne {t u : FileTree Unit} {cwd : Option Place} {dir : Path} {pid nanos : Nat}
    {counter : UInt64} {place : Place} (h : t.locate cwd (Utf8.encode "version") = .ok place) :
    u.locate cwd (Path.join dir (Scratch.name pid nanos counter)) ≠ .ok place := by
  intro h'
  have hjoin : t.locate cwd (Path.join [] "version") = .ok place := h
  have hname := FileTree.name_eq_of_locate_eq isPlain_version
    (Scratch.isPlain_encode_name pid nanos counter) hjoin h'
  obtain ⟨rest, hrest⟩ := Scratch.encode_name_eq_cons pid nanos counter
  rw [← hname] at hrest
  have hhead := congrArg List.head? hrest
  rw [List.head?_cons] at hhead
  exact absurd hhead (by decide)

theorem readsOrDeletesSource_telling : ReadsOrDeletesSource telling tellingValue where
  plain := by
    intro p program args environment cwd t u hsame
    have hread : ∀ path, t.read cwd path = u.read cwd path := by
      intro path
      rw [FileTree.read, FileTree.read, FileTree.find_congr fun place _ => hsame.node place]
    unfold tellingValue telling
    dsimp only
    split
    · exact ⟨fun path => ⟨by simp [fill, Conduct.output], rfl, rfl, rfl⟩, hsame⟩
    · exact ⟨fun path => ⟨by simp [fill, Conduct.output, hread], rfl, rfl, rfl⟩, hsame.without cwd _⟩
  source := by
    intro p program flags environment cwd t u dir pid nanos counter place text hvacant hsame
    obtain ⟨hlocate, hnone, -⟩ := FileTree.vacancy_eq_ok.1 hvacant
    generalize hpath : Path.join dir (Scratch.name pid nanos counter) = path at *
    have hargs : flags ++ [path] ≠ [Utf8.encode "version"] := by
      intro h
      have hlast := congrArg List.getLast? h
      rw [List.getLast?_concat] at hlast
      obtain rfl : path = Utf8.encode "version" := Option.some.inj hlast
      exact locate_version_ne hlocate (hpath ▸ hlocate)
    have hfind : t.find cwd path = .ok (.file text .data) := by
      rw [FileTree.find_congr fun place _ => hsame.node place]
      exact (FileTree.find_put hvacant _).2
    have hread := FileTree.read_of_find hfind
    -- Without its source, the files are those in which the text was not put.
    have hwithout : FileTree.Same (t.without cwd path) u := by
      have h := hsame.without cwd path
      rwa [FileTree.without_of_ok (FileTree.remove_put hvacant text .data)] at h
    unfold tellingValue telling
    rw [if_neg hargs]
    refine ⟨⟨by simp [fill, Conduct.output, hread, Except.toOption], rfl, rfl, rfl⟩, ?_, hnone, Or.inl ?_⟩
    · intro other _
      simpa using And.intro (hwithout.node other) (hwithout.closed other)
    · simpa [hnone] using hwithout.node place

/-- A job with a limit for the size of files. -/
def job (command : Command) (sizeLimit : Option Nat) : Job Unit :=
  ⟨{ call command sizeLimit with behave := telling }, tellingValue⟩

/-- A job for which the scratch file itself is to be started. -/
def confused : Job Unit :=
  ⟨{ call .run none with dispatcher := ⟨"/tmp/main-7-5-1.go", Utf8.encode "/tmp", .template⟩ },
    tellingValue⟩

/-- A job whose program makes the directory for scratch files one that cannot be written. -/
def locking : Job Unit :=
  ⟨{ call .run none with behave := fun _ _ files => ⟨[], .exited 0, closing files, none, none⟩ },
    fun _ _ files => ⟨[], .exited 0, closing files, none, none⟩⟩

/-- A run, a test whose text is too long for the system, a build, and a question for the version. -/
def jobs : List (Job Unit) :=
  [job .run none, job .test (some 3), job (.build ⟨none, none⟩) none, job .goVersion none]

end Sample

/-- In that run the scratch file is told by name, is not written, is deleted by the program, and is not
needed. -/
theorem sample_dispatch_refines_stateless :
    (∀ j ∈ Sample.jobs, ReadsOrDeletesSource j.call.behave j.behaveOnText) ∧
    (∀ t ∈ runCalls (Sample.jobs.map Job.call) Sample.world, t.Fresh) ∧
    (runCalls (Sample.jobs.map Job.call) Sample.world).map (fun t => t.result.toOption) =
      [some "/tmp/main-7-5-1.gopackage main\nimport \"fmt\"\nfunc main() \x7b fmt.Println(\"hello\") \x7d",
        none, some "", some "1"] ∧
    List.Forall₂ AnswerMatches
      (answers (some [])
        (Sample.jobs.zip ((runCalls (Sample.jobs.map Job.call) Sample.world).map CallRun.nameLength))
        Sample.files)
      (runCalls (Sample.jobs.map Job.call) Sample.world) := by
  have htools : ∀ j ∈ Sample.jobs, ReadsOrDeletesSource j.call.behave j.behaveOnText := by
    intro j hj
    simp only [Sample.jobs, List.mem_cons, List.not_mem_nil, or_false] at hj
    rcases hj with rfl | rfl | rfl | rfl
    all_goals exact Sample.readsOrDeletesSource_telling
  have hfresh : ∀ t ∈ runCalls (Sample.jobs.map Job.call) Sample.world, t.Fresh := by
    decide +kernel
  exact ⟨htools, hfresh, by decide +kernel,
    (dispatch_refines_stateless Sample.jobs Sample.world htools fun t ht _ => hfresh t ht).1⟩

/-- Three provisos that cannot be left out. That a new file can be opened does not suffice: here one can be,
and a driver that looks no further would hand over the text, but the text does not fit into the file. A
program that is looked for in the scratch file is found there, though it cannot be started. And where a program
does not touch its source, but sees to it that nothing can be removed from the directory, the scratch file
stays. -/
theorem sample_stateless_provisos :
    (let j := Sample.job .run (some 3)
     let t := j.call.run Sample.world
     t.initial.fault? j.call.dispatcher.scratchDir t.nameLength = none ∧
     ((Sample.job .run none).answer (some []) t.nameLength Sample.files).response =
       .output [.sourceName, .octets (Source.ofMode .normal).bytes] ∧
     t.result = .error (.artifact t.path .fileTooLarge)) ∧
    (let t := Sample.confused.call.run Sample.world
     (Sample.confused.answer (some []) t.nameLength Sample.files).response =
       .spawn "/tmp/main-7-5-1.go" .notFound ∧
     t.result = .error (.spawn "/tmp/main-7-5-1.go" .accessDenied)) ∧
    (let t := Sample.locking.call.run Sample.world
     t.result = .ok "" ∧ t.final.files.Present (some []) t.path ∧
     ¬ (Sample.locking.answer (some []) t.nameLength Sample.files).files.Present (some []) t.path) := by
  refine ⟨?_, ?_, ?_⟩
  · decide +kernel
  · decide +kernel
  · decide +kernel

end Conductor
