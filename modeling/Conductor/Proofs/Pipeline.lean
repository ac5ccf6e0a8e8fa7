import Conductor.Dispatch
import Conductor.Proofs.Lookup

/-!
# What one dispatch can do

The operations on a world are sequences of record updates, and every statement about runs would have to
take them apart again. They are taken apart here, once. `World.after` is the world in which nothing has
changed but the files, the number of names drawn and the trace, which has grown; every operation of the
pipeline ends in such a world, and the relations below say in which:

* `Toolchain.Invocation`: the pipe fails, the program is not found, or it runs to its end, of which the
  process may or may not learn;
* `Dispatcher.CompileOutcome`: no text, no file, no content, or an invocation and then the removal;
* `Dispatcher.DispatchOutcome`: a local answer, an invocation, or a compilation.

They are complete (`invoke_invocation`, `compile_outcome`, `dispatch_outcome`), so a property of all
dispatches is a property of each constructor.
-/

namespace Conductor

variable {τ : Type}

namespace World

/-! ## Worlds later on -/

/-- The world after the given events, with the files and the number of drawn names that they left. -/
def after (w : World τ) (files : FileTree τ) (drawn : Nat) (events : List (Event τ)) : World τ :=
  { w with files := files, drawn := drawn, trace := w.trace ++ events }

section After

variable (w : World τ) (files : FileTree τ) (drawn : Nat) (events : List (Event τ))

@[simp] theorem after_files : (w.after files drawn events).files = files := rfl
@[simp] theorem after_cwd : (w.after files drawn events).cwd = w.cwd := rfl
@[simp] theorem after_environment : (w.after files drawn events).environment = w.environment := rfl
@[simp] theorem after_behave : (w.after files drawn events).behave = w.behave := rfl
@[simp] theorem after_wording : (w.after files drawn events).wording = w.wording := rfl
@[simp] theorem after_pid : (w.after files drawn events).pid = w.pid := rfl
@[simp] theorem after_clock : (w.after files drawn events).clock = w.clock := rfl
@[simp] theorem after_drawn : (w.after files drawn events).drawn = drawn := rfl
@[simp] theorem after_sizeLimit : (w.after files drawn events).sizeLimit = w.sizeLimit := rfl
@[simp] theorem after_openLimit : (w.after files drawn events).openLimit = w.openLimit := rfl
@[simp] theorem after_trace : (w.after files drawn events).trace = w.trace ++ events := rfl

@[simp] theorem after_canOpen (n : Nat) : (w.after files drawn events).canOpen n = w.canOpen n := rfl

@[simp] theorem after_after (files' : FileTree τ) (drawn' : Nat) (events' : List (Event τ)) :
    (w.after files drawn events).after files' drawn' events' =
      w.after files' drawn' (events ++ events') := by
  simp [after, List.append_assoc]

theorem record_eq_after (e : Event τ) : w.record e = w.after w.files w.drawn [e] := rfl

theorem log_eq_after (level : Log.Level) (target message : String) :
    w.log level target message = w.after w.files w.drawn [.logged ⟨level, target, message⟩] := rfl

end After

/-- What happened between two worlds of one process. -/
def since (w w' : World τ) : List (Event τ) :=
  w'.trace.drop w.trace.length

theorem since_eq {w w' : World τ} {events : List (Event τ)} (h : w'.trace = w.trace ++ events) :
    w.since w' = events := by
  rw [since, h, List.drop_left]

/-! ## Creating and removing -/

/-- The name of the next scratch file. -/
def nextName (w : World τ) : String :=
  Scratch.name w.pid (w.clock w.drawn) (UInt64.ofNat (w.drawn + 1))

theorem drawName_eq (w : World τ) : w.drawName = (w.nextName, { w with drawn := w.drawn + 1 }) := rfl

/-- The path of the next scratch file in a directory. -/
def scratchPath (w : World τ) (dir : Path) : Path :=
  Path.join dir w.nextName

@[simp] theorem after_scratchPath (w : World τ) (files : FileTree τ) (events : List (Event τ))
    (dir : Path) : (w.after files w.drawn events).scratchPath dir = w.scratchPath dir := rfl

/-- What an attempt to remove a scratch file adds to the trace. -/
def removal (w : World τ) (p : Path) : List (Event τ) :=
  match w.files.remove w.cwd p with
  | .ok _ => [.removed p, .logged ⟨.debug, Scratch.target, "removed scratch source " ++ p.text⟩]
  | .error e =>
    [.notRemoved p e, .logged ⟨.warn, Scratch.target,
      "failed removing scratch source " ++ p.text ++ ": " ++ e.message⟩]

theorem release_eq_after (w : World τ) (p : Path) :
    w.release p = w.after (w.files.without w.cwd p) w.drawn (w.removal p) := by
  unfold release removal
  cases h : w.files.remove w.cwd p with
  | ok files => simp [FileTree.without_of_ok h, record, log, after]
  | error e => simp [FileTree.without_of_error h, record, log, after]

/-- The log record of a scratch file that was created and written. -/
def creationRecord (p : Path) (content : Bytes) : Event τ :=
  .logged ⟨.debug, Scratch.target,
    "created scratch source " ++ p.text ++ " (" ++ content.length.repr ++ " bytes)"⟩

/-- A new file is opened at a vacant place, if the limits of the system allow it. -/
theorem openNew_eq_ok {w : World τ} {p : Path} {place : Place} :
    w.openNew p = .ok place ↔ w.canOpen 1 = true ∧ w.files.vacancy w.cwd p = .ok place := by
  unfold openNew
  cases hc : Path.check p with
  | error e =>
    have hv : ∀ there, w.files.vacancy w.cwd p ≠ .ok there := by
      intro there hthere
      have := (FileTree.locate_eq_ok.1 (FileTree.vacancy_eq_ok.1 hthere).1).1
      simp [hc] at this
    simp [bind, Except.bind, hv]
  | ok _ =>
    cases w.canOpen 1 with
    | true => simp [bind, Except.bind]
    | false => simp [bind, Except.bind]

theorem perform_eq_after (w : World τ) (p : τ) (launch : Launch) :
    w.perform p launch = (w.behave p launch w.files,
      w.after (w.behave p launch w.files).files w.drawn
        [.started launch p (w.sourceOf launch.args) w.files,
          .ended (w.behave p launch w.files).ending]) := by
  simp [perform, record, after]

end World

namespace Scratch

theorem Writing.content_of_error_eq_none {limit : Option Nat} {content : Bytes}
    (h : (Writing.ofLimit limit content).error = none) :
    (Writing.ofLimit limit content).content = content := by
  unfold Writing.ofLimit at h ⊢
  cases limit with
  | none => rfl
  | some n =>
    dsimp only at h ⊢
    split
    · rfl
    · next hlong => simp [hlong] at h

end Scratch

/-! ## Running the toolchain -/

namespace Toolchain

/-- How a program is started from a world. -/
def launchFrom (w : World τ) (program : String) (args : List Bytes)
    (vars : List (String × String)) : Launch :=
  ⟨program, args, w.environment.setAll vars, w.cwd⟩

/-- What is made of the way in which a program ended, if that is learned. -/
def verdict (program : String) (conduct : Conduct τ) : Except Failure Outcome :=
  match conduct.unlearned? with
  | some e => .error (.spawn program e)
  | none =>
    if conduct.ending = .exited 0 then .ok ⟨Utf8.decodeLossy conduct.output, 0⟩
    else .error (.toolchain program conduct.ending.code? (Utf8.decodeLossy conduct.output))

/-- The log record before a start. -/
def spawnRecord (program : String) (args : List Bytes) (vars : List (String × String)) : Event τ :=
  .logged ⟨.debug, target, "spawning " ++ showStart program args vars⟩

/-- The log record after the end of a program. -/
def endRecord (program : String) (conduct : Conduct τ) : Event τ :=
  .logged ⟨.debug, target,
    "`" ++ program ++ "` finished with " ++ conduct.ending.text ++ " (" ++
      (Utf8.decodeLossy conduct.output).utf8ByteSize.repr ++ " bytes of output)"⟩

/-- What stands in the log after the end of a program: nothing if the end is not learned. -/
def endRecords (program : String) (conduct : Conduct τ) : List (Event τ) :=
  match conduct.unlearned? with
  | some _ => []
  | none => [endRecord program conduct]

/-- The ways in which a run of the toolchain can go, with its result and the world it leaves. -/
inductive Invocation (program : String) (args : List Bytes) (vars : List (String × String))
    (w : World τ) : Except Failure Outcome → World τ → Prop
  /-- There is no pipe for the output. -/
  | unpiped (h : w.canOpen 3 = false) :
      Invocation program args vars w (.error (.spawn program .tooManyOpenFiles)) w
  /-- There is no program to start. -/
  | unstarted (e : SystemError) (h : w.canOpen 3 = true) (hr : resolve w program args vars = .error e) :
      Invocation program args vars w (.error (.spawn program e))
        (w.after w.files w.drawn [spawnRecord program args vars])
  /-- The program is started and comes to its end, of which the process may not learn. -/
  | ended (p : τ) (conduct : Conduct τ) (h : w.canOpen 3 = true)
      (hr : resolve w program args vars = .ok p)
      (hc : conduct = w.behave p (launchFrom w program args vars) w.files) :
      Invocation program args vars w (verdict program conduct)
        (w.after conduct.files w.drawn
          ([spawnRecord program args vars,
            .started (launchFrom w program args vars) p (w.sourceOf args) w.files,
            .ended conduct.ending] ++ endRecords program conduct))

/-- The search for the program asks for the files and the limits only. -/
theorem resolve_after (w : World τ) (drawn : Nat) (events : List (Event τ)) (program : String)
    (args : List Bytes) (vars : List (String × String)) :
    resolve (w.after w.files drawn events) program args vars = resolve w program args vars := rfl

theorem invoke_of_unpiped {program : String} {args : List Bytes} {vars : List (String × String)}
    {w : World τ} (h : w.canOpen 3 = false) :
    invoke program args vars w = (.error (.spawn program .tooManyOpenFiles), w) := by
  simp [invoke, h]

theorem invoke_of_resolve_error {program : String} {args : List Bytes}
    {vars : List (String × String)} {w : World τ} {e : SystemError} (h : w.canOpen 3 = true)
    (hr : resolve w program args vars = .error e) :
    invoke program args vars w =
      (.error (.spawn program e), w.after w.files w.drawn [spawnRecord program args vars]) := by
  simp only [invoke, h, World.log_eq_after, resolve_after, hr, Bool.not_true, Bool.false_eq_true,
    if_false]
  rfl

theorem invoke_of_resolve_ok {program : String} {args : List Bytes} {vars : List (String × String)}
    {w : World τ} {p : τ} (h : w.canOpen 3 = true) (hr : resolve w program args vars = .ok p)
    {conduct : Conduct τ} (hc : conduct = w.behave p (launchFrom w program args vars) w.files) :
    invoke program args vars w =
      (verdict program conduct, w.after conduct.files w.drawn
        ([spawnRecord program args vars,
          .started (launchFrom w program args vars) p (w.sourceOf args) w.files,
          .ended conduct.ending] ++ endRecords program conduct)) := by
  -- The conduct gets its name before the record updates are folded, or each of them would spell it out.
  have hbehave : w.behave p ⟨program, args, w.environment.setAll vars, w.cwd⟩ w.files = conduct :=
    hc.symm
  simp only [invoke, h, World.log_eq_after, resolve_after, hr, World.perform_eq_after,
    World.after_files, World.after_behave, World.after_environment, World.after_cwd,
    World.after_drawn, World.after_after, hbehave, Bool.not_true, Bool.false_eq_true, if_false]
  unfold verdict endRecords
  cases conduct.unlearned? with
  | some e => rfl
  | none =>
    dsimp only
    by_cases hzero : conduct.ending = .exited 0
    · rw [if_pos hzero, if_pos hzero]
      rfl
    · rw [if_neg hzero, if_neg hzero]
      rfl

theorem invoke_invocation (program : String) (args : List Bytes) (vars : List (String × String))
    (w : World τ) :
    Invocation program args vars w (invoke program args vars w).1 (invoke program args vars w).2 := by
  cases h : w.canOpen 3 with
  | false =>
    rw [invoke_of_unpiped h]
    exact .unpiped h
  | true =>
    cases hr : resolve w program args vars with
    | error e =>
      rw [invoke_of_resolve_error h hr]
      exact .unstarted e h hr
    | ok p =>
      rw [invoke_of_resolve_ok h hr rfl]
      exact .ended p _ h hr rfl

end Toolchain

/-! ## Creating, using and removing a scratch file -/

namespace World

/-- The world in which the scratch file has been created and holds what could be written. -/
def created (w : World τ) (dir : Path) (place : Place) (content : Bytes)
    (events : List (Event τ)) : World τ :=
  w.after (w.files.put place (.file content .data)) (w.drawn + 1) (.created (w.scratchPath dir) :: events)

theorem createScratchWith_of_error {w : World τ} {dir : Path} {e : SystemError}
    (h : w.openNew (w.scratchPath dir) = .error e) (writing : Scratch.Writing) :
    w.createScratchWith dir writing =
      (.error (.artifact (w.scratchPath dir) e),
        w.after w.files (w.drawn + 1) [.notCreated (w.scratchPath dir) e]) := by
  have hopen : openNew { w with drawn := w.drawn + 1 } (Path.join dir w.nextName) = .error e := h
  simp only [createScratchWith, drawName_eq, hopen]
  rfl

theorem createScratchWith_of_ok {w : World τ} {dir : Path} {place : Place}
    (h : w.openNew (w.scratchPath dir) = .ok place) (writing : Scratch.Writing) :
    w.createScratchWith dir writing =
      match writing.error with
      | some e =>
        (.error (.artifact (w.scratchPath dir) e),
          (w.created dir place writing.content []).release (w.scratchPath dir))
      | none => (.ok (w.scratchPath dir), w.created dir place writing.content []) := by
  have hopen : openNew { w with drawn := w.drawn + 1 } (Path.join dir w.nextName) = .ok place := h
  simp only [createScratchWith, drawName_eq, hopen]
  rfl

theorem createScratch_of_error {w : World τ} {dir : Path} {e : SystemError}
    (h : w.openNew (w.scratchPath dir) = .error e) (content : Bytes) :
    w.createScratch dir content =
      (.error (.artifact (w.scratchPath dir) e),
        w.after w.files (w.drawn + 1) [.notCreated (w.scratchPath dir) e]) := by
  rw [createScratch, createScratchWith_of_error h]

theorem createScratch_of_ok {w : World τ} {dir : Path} {place : Place}
    (h : w.openNew (w.scratchPath dir) = .ok place) (content : Bytes) :
    w.createScratch dir content =
      match (Scratch.Writing.ofLimit w.sizeLimit content).error with
      | some e =>
        (.error (.artifact (w.scratchPath dir) e),
          (w.created dir place (Scratch.Writing.ofLimit w.sizeLimit content).content []).release
            (w.scratchPath dir))
      | none =>
        (.ok (w.scratchPath dir),
          w.created dir place content [creationRecord (w.scratchPath dir) content]) := by
  rw [createScratch, createScratchWith_of_ok h]
  cases he : (Scratch.Writing.ofLimit w.sizeLimit content).error with
  | some e => rfl
  | none =>
    dsimp only
    -- What was written without an error was written in full.
    rw [Scratch.Writing.content_of_error_eq_none he, log_eq_after]
    exact congrArg (Prod.mk _) (after_after _ _ _ _ _ _ _)

end World

namespace Dispatcher

/-- The ways in which the text of a mode can go through the pipeline, with the result and the world
that is left. -/
inductive CompileOutcome (d : Dispatcher) (mode : Mode) (flags : List String) (vars : List (String × String))
    (w : World τ) : Except Failure String → World τ → Prop
  /-- There is no text. -/
  | refused (e : SynthesisError) (hs : d.synthesizer mode none = .error e) :
      CompileOutcome d mode flags vars w (.error (.synthesis e))
        (w.after w.files w.drawn [.synthesized mode none])
  /-- There is no scratch file. -/
  | uncreated (source : Source) (e : SystemError) (hs : d.synthesizer mode none = .ok source)
      (ho : w.openNew (w.scratchPath d.scratchDir) = .error e) :
      CompileOutcome d mode flags vars w (.error (.artifact (w.scratchPath d.scratchDir) e))
        ((w.record (.synthesized mode none)).after w.files (w.drawn + 1)
          [.notCreated (w.scratchPath d.scratchDir) e])
  /-- The scratch file could not be written in full. -/
  | unwritten (source : Source) (place : Place) (e : SystemError)
      (hs : d.synthesizer mode none = .ok source)
      (ho : w.openNew (w.scratchPath d.scratchDir) = .ok place)
      (he : (Scratch.Writing.ofLimit w.sizeLimit source.bytes).error = some e) :
      CompileOutcome d mode flags vars w (.error (.artifact (w.scratchPath d.scratchDir) e))
        (((w.record (.synthesized mode none)).created d.scratchDir place
            (Scratch.Writing.ofLimit w.sizeLimit source.bytes).content []).release
          (w.scratchPath d.scratchDir))
  /-- The toolchain was asked, with the scratch file as the last argument. -/
  | used (source : Source) (place : Place) (r : Except Failure Toolchain.Outcome) (w' : World τ)
      (hs : d.synthesizer mode none = .ok source)
      (ho : w.openNew (w.scratchPath d.scratchDir) = .ok place)
      (he : (Scratch.Writing.ofLimit w.sizeLimit source.bytes).error = none)
      (hi : Toolchain.Invocation d.program (flags.map Utf8.encode ++ [w.scratchPath d.scratchDir]) vars
        ((w.record (.synthesized mode none)).created d.scratchDir place source.bytes
          [World.creationRecord (w.scratchPath d.scratchDir) source.bytes]) r w') :
      CompileOutcome d mode flags vars w (r.map Toolchain.Outcome.output)
        (w'.release (w.scratchPath d.scratchDir))

theorem compile_outcome (d : Dispatcher) (mode : Mode) (flags : List String)
    (vars : List (String × String)) (w : World τ) :
    CompileOutcome d mode flags vars w (d.compile mode flags vars w).1 (d.compile mode flags vars w).2 := by
  unfold compile
  cases hs : d.synthesizer mode none with
  | error e => exact .refused e hs
  | ok source =>
    have hpath : (w.record (.synthesized mode none)).scratchPath d.scratchDir =
        w.scratchPath d.scratchDir := rfl
    simp only [World.withScratch]
    cases ho : w.openNew (w.scratchPath d.scratchDir) with
    | error e =>
      rw [World.createScratch_of_error (w := w.record (.synthesized mode none)) ho]
      exact .uncreated source e hs ho
    | ok place =>
      rw [World.createScratch_of_ok (w := w.record (.synthesized mode none)) ho]
      have hlimit : (w.record (.synthesized mode none)).sizeLimit = w.sizeLimit := rfl
      rw [hlimit, hpath]
      cases he : (Scratch.Writing.ofLimit w.sizeLimit source.bytes).error with
      | some e => exact .unwritten source place e hs ho he
      | none =>
        have hi := Toolchain.invoke_invocation d.program
          (flags.map Utf8.encode ++ [w.scratchPath d.scratchDir]) vars
          ((w.record (.synthesized mode none)).created d.scratchDir place source.bytes
            [World.creationRecord (w.scratchPath d.scratchDir) source.bytes])
        have hused := CompileOutcome.used source place _ _ hs ho he hi
        -- The body of `compile` takes the outcome apart and the relation maps over it: once the outcome is a
        -- constructor they are the same.
        dsimp only
        revert hused
        rcases Toolchain.invoke d.program _ vars _ with ⟨_ | outcome, w'⟩
        · exact id
        · exact id

end Dispatcher

/-! ## Dispatching -/

namespace Command

/-- The mode in which a command needs program text. -/
def mode? : Command → Option Mode
  | .build _ => some .normal
  | .run => some .normal
  | .test => some .test
  | .repl _ | .version | .goVersion | .help => none

/-- A command that is answered on the spot needs no program text. -/
theorem mode?_of_localOutput? {command : Command} {output : String}
    (h : command.localOutput? = some output) : command.mode? = none := by
  cases command with
  | build t => cases h
  | run => cases h
  | test => cases h
  | _ => rfl

/-- The arguments that a command always has for the toolchain. -/
def flags : Command → List String
  | .build _ => Dispatcher.buildFlags
  | .run | .test => ["run"]
  | .goVersion => ["version"]
  | .repl _ | .version | .help => []

/-- The target that a command names. -/
def target : Command → Target
  | .build t => t
  | .run | .test | .repl _ | .version | .goVersion | .help => ⟨none, none⟩

/-- What a command prints of the output of the toolchain. -/
def printed : Command → String → String
  | .build _, _ => ""
  | _, output => output

end Command

/-- A target of which nothing is named sets nothing. -/
theorem Target.settings_none : (⟨none, none⟩ : Target).settings = [] := rfl

namespace Dispatcher

/-- The log record at the start of a dispatch. -/
def startRecord (command : Command) : Event τ :=
  .logged ⟨.info, target, "dispatching `" ++ command.name ++ "`"⟩

theorem log_start (w : World τ) (command : Command) :
    w.log .info target ("dispatching `" ++ command.name ++ "`") =
      w.after w.files w.drawn [startRecord command] := rfl

/-- The ways in which a dispatch can go, with the result and the world that is left. -/
inductive DispatchOutcome (d : Dispatcher) (command : Command) (w : World τ) :
    Except Failure String → World τ → Prop
  /-- The answer hangs on the command alone. -/
  | answered (output : String) (h : command.localOutput? = some output) :
      DispatchOutcome d command w (.ok output) (w.after w.files w.drawn [startRecord command])
  /-- The toolchain is asked for its version. -/
  | asked (h : command = .goVersion) (r : Except Failure Toolchain.Outcome) (w' : World τ)
      (hi : Toolchain.Invocation d.program (command.flags.map Utf8.encode) command.target.settings
        (w.after w.files w.drawn [startRecord command]) r w') :
      DispatchOutcome d command w (r.map Toolchain.Outcome.output) w'
  /-- Program text goes through the pipeline. -/
  | compiled (mode : Mode) (h : command.mode? = some mode) (r : Except Failure String) (w' : World τ)
      (hc : CompileOutcome d mode command.flags command.target.settings
        (w.after w.files w.drawn [startRecord command]) r w') :
      DispatchOutcome d command w (r.map command.printed) w'

theorem map_printed_of_ne_build {command : Command} (h : ∀ t, command ≠ .build t)
    (r : Except Failure String) : r.map command.printed = r := by
  cases r with
  | error f => rfl
  | ok output =>
    cases command with
    | build t => exact absurd rfl (h t)
    | _ => rfl

theorem dispatch_outcome (d : Dispatcher) (command : Command) (w : World τ) :
    DispatchOutcome d command w (d.dispatch command w).1 (d.dispatch command w).2 := by
  have hcompile := fun mode => d.compile_outcome mode command.flags command.target.settings
    (w.after w.files w.drawn [startRecord command])
  cases command with
  | build t =>
    have h : DispatchOutcome d (.build t) w _ _ := .compiled .normal rfl _ _ (hcompile .normal)
    simp only [Command.flags, Command.target] at h
    simp only [dispatch, log_start]
    revert h
    rcases d.compile .normal buildFlags t.settings
      (w.after w.files w.drawn [startRecord (.build t)]) with ⟨_ | output, w'⟩
    · exact id
    · exact id
  | run =>
    have h : DispatchOutcome d .run w _ _ := .compiled .normal rfl _ _ (hcompile .normal)
    rwa [map_printed_of_ne_build (by simp)] at h
  | test =>
    have h : DispatchOutcome d .test w _ _ := .compiled .test rfl _ _ (hcompile .test)
    rwa [map_printed_of_ne_build (by simp)] at h
  | goVersion =>
    have h : DispatchOutcome d .goVersion w _ _ := .asked rfl _ _ (Toolchain.invoke_invocation ..)
    simp only [Command.flags, Command.target, Target.settings_none, List.map_cons, List.map_nil] at h
    simp only [dispatch, log_start]
    revert h
    rcases Toolchain.invoke d.program [Utf8.encode "version"] []
      (w.after w.files w.drawn [startRecord .goVersion]) with ⟨_ | outcome, w'⟩
    · exact id
    · exact id
  | repl args =>
    cases args with
    | nil => exact .answered _ rfl
    | cons arg args => exact .answered _ rfl
  | version => exact .answered _ rfl
  | help => exact .answered _ rfl

end Dispatcher

end Conductor
