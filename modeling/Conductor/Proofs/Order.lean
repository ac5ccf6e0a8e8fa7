import Conductor.Proofs.Pipeline

/-!
# The order of the pipeline

The trace of a dispatch, log records aside, is one of six short lists (`DispatchActions`). They are read
off the outcomes of `Pipeline` once; everything about the order of synthesis, creation, start, end and
removal is then a look at six lists, and so is everything about how often a scratch file is created and
removed.

`pipeline_order` puts together what the toolchain receives: which arguments, which file with which
content, which environment, and when the file goes.
-/

namespace Conductor

variable {τ : Type}

/-! ## Kinds of events -/

namespace Event

/-- Whether an event is more than a log record. -/
def isAction : Event τ → Bool
  | .logged _ => false
  | _ => true

/-- The path at which an event tries to create a scratch file. -/
def attempt? : Event τ → Option Path
  | .created p => some p
  | .notCreated p _ => some p
  | _ => none

/-- The path at which an event creates a scratch file. -/
def creation? : Event τ → Option Path
  | .created p => some p
  | _ => none

/-- The path at which an event tries to remove a scratch file. -/
def removal? : Event τ → Option Path
  | .removed p => some p
  | .notRemoved p _ => some p
  | _ => none

/-- How an event starts a program. -/
def start? : Event τ → Option Launch
  | .started launch _ _ _ => some launch
  | _ => none

end Event

/-- The events that are more than log records. -/
def actions (events : List (Event τ)) : List (Event τ) :=
  events.filter Event.isAction

/-- The paths at which a scratch file was to be created, in order. -/
def attempts (events : List (Event τ)) : List Path :=
  events.filterMap Event.attempt?

/-- The paths at which a scratch file was created, in order. -/
def creations (events : List (Event τ)) : List Path :=
  events.filterMap Event.creation?

/-- The paths at which a scratch file was to be removed, in order. -/
def removals (events : List (Event τ)) : List Path :=
  events.filterMap Event.removal?

/-- The programs that were started, in order. -/
def starts (events : List (Event τ)) : List Launch :=
  events.filterMap Event.start?

/-- A log record is none of the other kinds, so nothing is lost by leaving log records out. -/
theorem filterMap_actions {α : Type} (f : Event τ → Option α) (hf : ∀ r, f (.logged r) = none)
    (events : List (Event τ)) : (actions events).filterMap f = events.filterMap f := by
  induction events with
  | nil => rfl
  | cons e events ih =>
    cases e with
    | logged r => simpa [actions, Event.isAction, List.filterMap_cons, hf] using ih
    | _ => simpa [actions, Event.isAction, List.filterMap_cons] using by rw [← ih]; rfl

theorem mem_actions {e : Event τ} {events : List (Event τ)} :
    e ∈ actions events ↔ e ∈ events ∧ e.isAction = true :=
  List.mem_filter

theorem mem_of_actions_eq_cons {e : Event τ} {events rest : List (Event τ)}
    (h : actions events = e :: rest) : e ∈ events :=
  (mem_actions.1 (h ▸ List.mem_cons_self)).1

/-! ## The traces of a dispatch -/

/-- What became of the attempt to remove a scratch file from the given files. -/
def removalEvent (files : FileTree τ) (cwd : Option Place) (p : Path) : Event τ :=
  match files.remove cwd p with
  | .ok _ => .removed p
  | .error e => .notRemoved p e

theorem actions_append_removal (events : List (Event τ)) (w : World τ) (p : Path) :
    actions (events ++ w.removal p) = actions events ++ [removalEvent w.files w.cwd p] := by
  have hremoval : actions (w.removal p) = [removalEvent w.files w.cwd p] := by
    unfold World.removal removalEvent
    cases w.files.remove w.cwd p with
    | ok files => rfl
    | error e => rfl
  rw [← hremoval]
  exact List.filter_append ..

/-- How the toolchain is started for a command, with the given source. -/
def launchFor (d : Dispatcher) (command : Command) (w : World τ) (source : List Path) : Launch :=
  Toolchain.launchFrom w d.program (command.flags.map Utf8.encode ++ source) command.target.settings

/-- All that a dispatch can do, log records aside: what happens, and the files that are left. -/
inductive DispatchActions (d : Dispatcher) (command : Command) (w : World τ) :
    List (Event τ) → FileTree τ → Prop
  /-- A local command, or one whose program is not started. -/
  | nothing (h : command.mode? = none) : DispatchActions d command w [] w.files
  /-- The toolchain is asked for its version. -/
  | asked (h : command = .goVersion) (p : τ) (source : Option Bytes) (conduct : Conduct τ)
      (hc : conduct = w.behave p (launchFor d command w []) w.files) :
      DispatchActions d command w
        [.started (launchFor d command w []) p source w.files, .ended conduct.ending] conduct.files
  /-- There is no text. -/
  | refused (mode : Mode) (h : command.mode? = some mode) (e : SynthesisError)
      (hs : d.synthesizer mode none = .error e) :
      DispatchActions d command w [.synthesized mode none] w.files
  /-- There is no scratch file. -/
  | uncreated (mode : Mode) (h : command.mode? = some mode) (source : Source)
      (hs : d.synthesizer mode none = .ok source) (e : SystemError)
      (ho : w.openNew (w.scratchPath d.scratchDir) = .error e) :
      DispatchActions d command w [.synthesized mode none, .notCreated (w.scratchPath d.scratchDir) e] w.files
  /-- The scratch file is not written in full, or the program is not started. -/
  | unused (mode : Mode) (h : command.mode? = some mode) (source : Source)
      (hs : d.synthesizer mode none = .ok source) (place : Place)
      (ho : w.openNew (w.scratchPath d.scratchDir) = .ok place) :
      DispatchActions d command w
        [.synthesized mode none, .created (w.scratchPath d.scratchDir),
          .removed (w.scratchPath d.scratchDir)] w.files
  /-- The program runs with the scratch file as its last argument. -/
  | used (mode : Mode) (h : command.mode? = some mode) (source : Source)
      (hs : d.synthesizer mode none = .ok source) (place : Place)
      (ho : w.openNew (w.scratchPath d.scratchDir) = .ok place)
      (he : (Scratch.Writing.ofLimit w.sizeLimit source.bytes).error = none)
      (p : τ) (conduct : Conduct τ)
      (hc : conduct = w.behave p (launchFor d command w [w.scratchPath d.scratchDir])
        (w.files.put place (.file source.bytes .data))) :
      DispatchActions d command w
        [.synthesized mode none, .created (w.scratchPath d.scratchDir),
          .started (launchFor d command w [w.scratchPath d.scratchDir]) p (some source.bytes)
            (w.files.put place (.file source.bytes .data)),
          .ended conduct.ending, removalEvent conduct.files w.cwd (w.scratchPath d.scratchDir)]
        (conduct.files.without w.cwd (w.scratchPath d.scratchDir))

/-- Of a program that runs to its end, there is a start and an end among the records of the log. -/
theorem Toolchain.actions_ended (program : String) (args : List Bytes) (vars : List (String × String))
    (launch : Launch) (p : τ) (source : Option Bytes) (files : FileTree τ) (conduct : Conduct τ) :
    Conductor.actions ([spawnRecord program args vars, .started launch p source files,
        .ended conduct.ending] ++ endRecords program conduct) =
      [.started launch p source files, .ended conduct.ending] := by
  unfold endRecords
  cases conduct.unlearned? with
  | some e => rfl
  | none => rfl

/-- What a run of the toolchain adds to the trace: nothing, or a start and an end. -/
theorem Toolchain.Invocation.actions {program : String} {args : List Bytes}
    {vars : List (String × String)} {w w' : World τ} {r : Except Failure Toolchain.Outcome}
    (h : Toolchain.Invocation program args vars w r w') :
    ∃ files events, w' = w.after files w.drawn events ∧
      ((Conductor.actions events = [] ∧ files = w.files) ∨
        ∃ p conduct, conduct = w.behave p (launchFrom w program args vars) w.files ∧
          files = conduct.files ∧ Conductor.actions events =
            [.started (launchFrom w program args vars) p (w.sourceOf args) w.files,
              .ended conduct.ending]) := by
  cases h with
  | unpiped h => exact ⟨w.files, [], by simp [World.after], Or.inl ⟨rfl, rfl⟩⟩
  | unstarted e h hr => exact ⟨_, _, rfl, Or.inl ⟨rfl, rfl⟩⟩
  | ended p conduct h hr hc =>
    exact ⟨_, _, rfl, Or.inr ⟨p, conduct, hc, rfl, actions_ended ..⟩⟩

/-- The tool is started with its source in place. -/
theorem World.sourceOf_created {w : World τ} {dir : Path} {place : Place}
    (h : w.openNew (w.scratchPath dir) = .ok place) (content : Bytes) (events : List (Event τ))
    (args : List Bytes) :
    (w.created dir place content events).sourceOf (args ++ [w.scratchPath dir]) = some content := by
  have hfind := (FileTree.find_put (World.openNew_eq_ok.1 h).2 (.file content .data)).2
  simp [World.sourceOf, World.contentOf, World.created, FileTree.read_of_find hfind,
    Except.toOption]

/-- A scratch file that is still there as it was put is removed, and the files are as before. -/
theorem World.release_put {w v : World τ} {p : Path} {place : Place} {content : Bytes}
    (hvacant : w.files.vacancy w.cwd p = .ok place) (hcwd : v.cwd = w.cwd)
    (hfiles : v.files = w.files.put place (.file content .data)) :
    (v.release p).files = w.files ∧ removalEvent v.files v.cwd p = .removed p := by
  have hremove : v.files.remove v.cwd p = .ok w.files := by
    rw [hfiles, hcwd]
    exact FileTree.remove_put hvacant content .data
  constructor
  · rw [World.release_eq_after, World.after_files, FileTree.without_of_ok hremove]
  · rw [removalEvent, hremove]

/-- The trace of a compilation that starts after a log record. -/
theorem Dispatcher.CompileOutcome.actions {d : Dispatcher} {command : Command} {mode : Mode} {w w' : World τ}
    {record : Event τ} {r : Except Failure String} (h : command.mode? = some mode)
    (hc : d.CompileOutcome mode command.flags command.target.settings (w.after w.files w.drawn [record]) r w') :
    ∃ events, w' = w.after w'.files w'.drawn (record :: events) ∧
      DispatchActions d command w (Conductor.actions events) w'.files := by
  cases hc with
  | refused e hs => exact ⟨[.synthesized mode none], by simp, .refused mode h e hs⟩
  | uncreated source e hs ho =>
    exact ⟨[.synthesized mode none, .notCreated (w.scratchPath d.scratchDir) e],
      by simp [World.record_eq_after], .uncreated mode h source hs e ho⟩
  | unwritten source place e hs ho he =>
    have hvacant : w.files.vacancy w.cwd (w.scratchPath d.scratchDir) = .ok place :=
      (World.openNew_eq_ok.1 ho).2
    generalize hworld : World.created _ _ _ _ _ = v
    -- Nobody touched the file since it was put, so the removal succeeds and gives back the files.
    obtain ⟨hfiles, hremoved⟩ := World.release_put (v := v) hvacant (by rw [← hworld]; rfl)
      (by rw [← hworld]; rfl)
    refine ⟨[.synthesized mode none, .created (w.scratchPath d.scratchDir)] ++
      v.removal (w.scratchPath d.scratchDir), ?_, ?_⟩
    · rw [World.release_eq_after, ← hworld]
      simp [World.record_eq_after, World.created]
    · have hpath : (w.after w.files w.drawn [record]).scratchPath d.scratchDir =
          w.scratchPath d.scratchDir := rfl
      rw [hpath, hfiles, actions_append_removal, hremoved]
      exact DispatchActions.unused (w := w) mode h source hs place ho
  | used source place r v hs ho he hi =>
    have hvacant : w.files.vacancy w.cwd (w.scratchPath d.scratchDir) = .ok place :=
      (World.openNew_eq_ok.1 ho).2
    have hpath : (w.after w.files w.drawn [record]).scratchPath d.scratchDir =
        w.scratchPath d.scratchDir := rfl
    obtain ⟨files, events, hworld, hevents⟩ := hi.actions
    refine ⟨[.synthesized mode none, .created (w.scratchPath d.scratchDir),
      World.creationRecord (w.scratchPath d.scratchDir) source.bytes] ++ events ++
      v.removal (w.scratchPath d.scratchDir), ?_, ?_⟩
    · rw [World.release_eq_after, hworld]
      simp [World.record_eq_after, World.created]
    have hskip : Conductor.actions ([.synthesized mode none, .created (w.scratchPath d.scratchDir),
        World.creationRecord (w.scratchPath d.scratchDir) source.bytes] ++ events) =
        [.synthesized mode none, .created (w.scratchPath d.scratchDir)] ++ Conductor.actions events := rfl
    rw [actions_append_removal, hskip, hpath]
    -- Either nothing was started and the file is as it was put, or the program had its way with the files.
    rcases hevents with ⟨hnil, hfiles⟩ | ⟨p, conduct, hc, hfiles, hlist⟩
    · obtain ⟨hleft, hremoved⟩ := World.release_put (v := v) hvacant (by rw [hworld]; rfl)
        (by rw [hworld, World.after_files, hfiles]; rfl)
      rw [hnil, hleft, hremoved]
      exact DispatchActions.unused (w := w) mode h source hs place ho
    · have hsource := World.sourceOf_created (w := (w.after w.files w.drawn [record]).record
        (.synthesized mode none)) ho source.bytes
        [World.creationRecord (w.scratchPath d.scratchDir) source.bytes]
        (command.flags.map Utf8.encode)
      have hused := DispatchActions.used (w := w) mode h source hs place ho he p conduct hc
      rw [hlist, World.release_eq_after, World.after_files, hworld, World.after_files, hfiles]
      rw [← hsource] at hused
      exact hused

theorem Dispatcher.DispatchOutcome.actions {d : Dispatcher} {command : Command} {w w' : World τ}
    {r : Except Failure String} (h : d.DispatchOutcome command w r w') :
    ∃ events, w' = w.after w'.files w'.drawn events ∧
      DispatchActions d command w (Conductor.actions events) w'.files := by
  cases h with
  | answered output h => exact ⟨_, rfl, .nothing (Command.mode?_of_localOutput? h)⟩
  | asked h r w' hi =>
    obtain ⟨files, events, rfl, ⟨hnil, rfl⟩ | ⟨p, conduct, hc, rfl, hlist⟩⟩ := hi.actions
    · refine ⟨Dispatcher.startRecord command :: events, by simp, ?_⟩
      have hskip : Conductor.actions (Dispatcher.startRecord command :: events) = [] := hnil
      rw [hskip]
      exact .nothing (by rw [h]; rfl)
    · refine ⟨Dispatcher.startRecord command :: events, by simp, ?_⟩
      have hskip : Conductor.actions (Dispatcher.startRecord command :: events) = _ := hlist
      rw [hskip]
      have hlaunch : launchFor d command w [] =
          Toolchain.launchFrom w d.program (command.flags.map Utf8.encode) command.target.settings := by
        rw [launchFor, List.append_nil]
      exact hlaunch ▸ DispatchActions.asked (w := w) h p _ conduct (hlaunch ▸ hc)
  | compiled mode h r w' hc =>
    obtain ⟨events, hafter, hactions⟩ := hc.actions h
    exact ⟨Dispatcher.startRecord command :: events, hafter, hactions⟩

/-- A dispatch changes nothing of a world but its files, its trace and the number of drawn names. -/
theorem dispatch_eq_after (d : Dispatcher) (command : Command) (w : World τ) :
    (d.dispatch command w).2 = w.after (d.dispatch command w).2.files (d.dispatch command w).2.drawn
      (w.since (d.dispatch command w).2) := by
  obtain ⟨events, hafter, -⟩ := (d.dispatch_outcome command w).actions
  have hsince : w.since (d.dispatch command w).2 = events :=
    World.since_eq (by rw [hafter, World.after_trace])
  rw [hsince]
  exact hafter

/-- A dispatch does one of the lists of `DispatchActions`, with log records between. -/
theorem dispatch_actions (d : Dispatcher) (command : Command) (w : World τ) :
    DispatchActions d command w (actions (w.since (d.dispatch command w).2)) (d.dispatch command w).2.files := by
  obtain ⟨events, hafter, hactions⟩ := (d.dispatch_outcome command w).actions
  have hsince : w.since (d.dispatch command w).2 = events :=
    World.since_eq (by rw [hafter, World.after_trace])
  rw [hsince]
  exact hactions

/-! ## The environment of the toolchain -/

/-- The value that a target gives to a variable. -/
def Target.value? (t : Target) (name : String) : Option Bytes :=
  if name = "GOOS" then t.os.map Utf8.encode
  else if name = "GOARCH" then t.arch.map Utf8.encode
  else none

/-- The parts of a target replace two variables, and nothing else changes. -/
theorem Target.get?_setAll (t : Target) (e : Environment) (name : String) :
    (e.setAll t.settings).get? name = (t.value? name).or (e.get? name) := by
  have hne : ("GOOS" : String) ≠ "GOARCH" := by decide
  rcases t with ⟨os, arch⟩
  by_cases hos : name = "GOOS"
  · subst hos
    cases os <;> cases arch <;> simp [settings, Environment.setAll, value?, hne]
  · by_cases harch : name = "GOARCH"
    · subst harch
      cases os <;> cases arch <;> simp [settings, Environment.setAll, value?]
    · cases os <;> cases arch <;> simp [settings, Environment.setAll, value?, hos, harch]

/-! ## Reading the lists -/

@[simp]
theorem removal?_removalEvent (files : FileTree τ) (cwd : Option Place) (p : Path) :
    (removalEvent files cwd p).removal? = some p := by
  unfold removalEvent
  cases files.remove cwd p with
  | ok _ => rfl
  | error _ => rfl

@[simp]
theorem attempt?_removalEvent (files : FileTree τ) (cwd : Option Place) (p : Path) :
    (removalEvent files cwd p).attempt? = none := by
  unfold removalEvent
  cases files.remove cwd p with
  | ok _ => rfl
  | error _ => rfl

@[simp]
theorem creation?_removalEvent (files : FileTree τ) (cwd : Option Place) (p : Path) :
    (removalEvent files cwd p).creation? = none := by
  unfold removalEvent
  cases files.remove cwd p with
  | ok _ => rfl
  | error _ => rfl

@[simp]
theorem start?_removalEvent (files : FileTree τ) (cwd : Option Place) (p : Path) :
    (removalEvent files cwd p).start? = none := by
  unfold removalEvent
  cases files.remove cwd p with
  | ok _ => rfl
  | error _ => rfl

theorem started_ne_removalEvent {launch : Launch} {p : τ} {content : Option Bytes}
    {files files' : FileTree τ} {cwd : Option Place} {path : Path} :
    Event.started launch p content files' ≠ removalEvent files cwd path := by
  intro h
  have hstart := congrArg Event.start? h
  rw [start?_removalEvent] at hstart
  cases hstart

namespace DispatchActions

variable {d : Dispatcher} {command : Command} {w : World τ} {l : List (Event τ)} {files : FileTree τ}

/-- The only start is the one that the command asks for. -/
theorem starts_cases (h : DispatchActions d command w l files) :
    starts l = [] ∨ ∃ source, starts l = [launchFor d command w source] := by
  cases h with
  | asked => exact Or.inr ⟨[], rfl⟩
  | used =>
    refine Or.inr ⟨[w.scratchPath d.scratchDir], ?_⟩
    simp only [starts, List.filterMap_cons, start?_removalEvent]
    rfl
  | _ => exact Or.inl rfl

theorem of_refused (h : DispatchActions d command w l files) {mode : Mode} {e : SynthesisError}
    (hm : command.mode? = some mode) (hs : d.synthesizer mode none = .error e) :
    l = [.synthesized mode none] ∧ files = w.files := by
  cases h with
  | nothing hm' => simp [hm] at hm'
  | asked hm' => simp [hm', Command.mode?] at hm
  | refused mode' hm' e' hs' =>
    obtain rfl : mode = mode' := Option.some.inj (hm.symm.trans hm')
    exact ⟨rfl, rfl⟩
  | uncreated mode' hm' source hs' | unused mode' hm' source hs' | used mode' hm' source hs' =>
    obtain rfl : mode = mode' := Option.some.inj (hm.symm.trans hm')
    simp [hs] at hs'

theorem starts_eq_nil (h : DispatchActions d command w l files) {mode : Mode} {source : Source}
    (hm : command.mode? = some mode) (hs : d.synthesizer mode none = .ok source)
    (hfail : (∀ place, w.openNew (w.scratchPath d.scratchDir) ≠ .ok place) ∨
      (Scratch.Writing.ofLimit w.sizeLimit source.bytes).error ≠ none) : starts l = [] := by
  cases h with
  | asked hm' => simp [hm', Command.mode?] at hm
  | used mode' hm' source' hs' place ho he =>
    obtain rfl : mode = mode' := Option.some.inj (hm.symm.trans hm')
    obtain rfl : source = source' := Except.ok.inj (hs.symm.trans hs')
    rcases hfail with hopen | hwrite
    · exact absurd ho (hopen place)
    · exact absurd he hwrite
  | _ => rfl

theorem of_started_with_text (h : DispatchActions d command w l files) {mode : Mode} {launch : Launch}
    {p : τ} {content : Option Bytes} {among : FileTree τ} (hm : command.mode? = some mode)
    (hin : .started launch p content among ∈ l) :
    ∃ source ending last, d.synthesizer mode none = .ok source ∧
      launch = launchFor d command w [w.scratchPath d.scratchDir] ∧
      content = some source.bytes ∧ last.removal? = some (w.scratchPath d.scratchDir) ∧
      l = [.synthesized mode none, .created (w.scratchPath d.scratchDir),
        .started launch p content among, .ended ending, last] := by
  cases h with
  | asked hm' => simp [hm', Command.mode?] at hm
  | used mode' hm' source hs place ho he p' conduct hc =>
    obtain rfl : mode = mode' := Option.some.inj (hm.symm.trans hm')
    simp only [List.mem_cons, reduceCtorEq, Event.started.injEq, started_ne_removalEvent,
      List.not_mem_nil, or_false, false_or] at hin
    obtain ⟨rfl, rfl, rfl, rfl⟩ := hin
    exact ⟨source, conduct.ending, _, hs, rfl, rfl, removal?_removalEvent .., rfl⟩
  | _ => simp at hin

theorem of_started_without_text (h : DispatchActions d command w l files) {launch : Launch} {p : τ}
    {content : Option Bytes} {among : FileTree τ} (hm : command.mode? = none)
    (hin : .started launch p content among ∈ l) :
    command = .goVersion ∧ launch = launchFor d command w [] ∧ attempts l = [] ∧ removals l = [] ∧
      among = w.files ∧ files = (w.behave p launch w.files).files := by
  cases h with
  | nothing => simp at hin
  | asked hm' p' source conduct hc =>
    simp only [List.mem_cons, reduceCtorEq, Event.started.injEq, List.not_mem_nil, or_false] at hin
    obtain ⟨rfl, rfl, rfl, rfl⟩ := hin
    exact ⟨hm', rfl, rfl, rfl, rfl, by rw [hc]⟩
  | refused mode' hm' | uncreated mode' hm' | unused mode' hm' | used mode' hm' => simp [hm] at hm'

end DispatchActions

/-- The arguments of a command that needs program text: a build has flags of its own. -/
theorem Command.args_of_mode? {command : Command} {mode : Mode} (h : command.mode? = some mode)
    (w : World τ) (d : Dispatcher) (path : Path) :
    (launchFor d command w [path]).args =
      (match command with
        | .build _ => ["build", "-ldflags=-s -w", "-trimpath", "-o", "a.out"]
        | _ => ["run"]).map Utf8.encode ++ [path] := by
  cases command with
  | build t => rfl
  | run => rfl
  | test => rfl
  | _ => cases h

/-- **The order of the pipeline.** Of one dispatch, whatever the command, the synthesizer, the files, the
environment and the programs are:

* at most one program is started;
* without program text no file is touched and no program is started;
* if the scratch file cannot be opened or written in full, no program is started;
* a program that is started for a text has the flags of the command and then the path of the scratch
  file as its arguments, finds the text in that file octet for octet, and the file is removed only after
  the program has ended;
* a program that is started without a text is asked for its version, with no scratch file about: it finds
  the files as the dispatch found them;
* the environment is that of the process, in which a build target replaces the variables that it names a
  value for, and the process keeps its own. -/
theorem pipeline_order (d : Dispatcher) (command : Command) (w : World τ) :
    let w' := (d.dispatch command w).2
    let events := w.since w'
    let path := w.scratchPath d.scratchDir
    (starts events).length ≤ 1 ∧
    (∀ mode e, command.mode? = some mode → d.synthesizer mode none = .error e →
      attempts events = [] ∧ removals events = [] ∧ starts events = [] ∧ w'.files = w.files) ∧
    (∀ mode source, command.mode? = some mode → d.synthesizer mode none = .ok source →
      (∀ place, w.openNew path ≠ .ok place) ∨
          (Scratch.Writing.ofLimit w.sizeLimit source.bytes).error ≠ none →
        starts events = []) ∧
    (∀ mode launch p content files, command.mode? = some mode →
      .started launch p content files ∈ events →
      ∃ source ending last, d.synthesizer mode none = .ok source ∧ launch.program = d.program ∧
        launch.args = (match command with
          | .build _ => ["build", "-ldflags=-s -w", "-trimpath", "-o", "a.out"]
          | _ => ["run"]).map Utf8.encode ++ [path] ∧
        content = some source.bytes ∧ last.removal? = some path ∧
        actions events = [.synthesized mode none, .created path, .started launch p content files,
          .ended ending, last]) ∧
    (∀ launch p content files, command.mode? = none → .started launch p content files ∈ events →
      command = .goVersion ∧ launch.program = d.program ∧ launch.args = [Utf8.encode "version"] ∧
        attempts events = [] ∧ removals events = [] ∧ files = w.files ∧
        w'.files = (w.behave p launch w.files).files) ∧
    (∀ launch ∈ starts events, ∀ name, launch.environment.get? name =
      (command.target.value? name).or (w.environment.get? name)) ∧
    w'.environment = w.environment := by
  intro w' events path
  -- Every part is read off the list of actions, and log records count for none of them.
  have h : DispatchActions d command w (actions events) w'.files := dispatch_actions d command w
  have hstarts : starts (actions events) = starts events := filterMap_actions _ (fun _ => rfl) _
  have hattempts : attempts (actions events) = attempts events := filterMap_actions _ (fun _ => rfl) _
  have hremovals : removals (actions events) = removals events := filterMap_actions _ (fun _ => rfl) _
  refine ⟨?_, ?_, ?_, ?_, ?_, ?_, ?_⟩
  · rcases h.starts_cases with hnil | ⟨source, hone⟩
    · simp [← hstarts, hnil]
    · simp [← hstarts, hone]
  · intro mode e hm hs
    obtain ⟨hl, hfiles⟩ := h.of_refused hm hs
    rw [← hattempts, ← hremovals, ← hstarts, hl]
    exact ⟨rfl, rfl, rfl, hfiles⟩
  · intro mode source hm hs hfail
    rw [← hstarts]
    exact h.starts_eq_nil hm hs hfail
  · intro mode launch p content files hm hin
    obtain ⟨source, ending, last, hs, rfl, hcontent, hlast, hl⟩ :=
      h.of_started_with_text hm (mem_actions.2 ⟨hin, rfl⟩)
    exact ⟨source, ending, last, hs, rfl, Command.args_of_mode? hm w d _, hcontent, hlast, hl⟩
  · intro launch p content files hm hin
    obtain ⟨rfl, rfl, hatt, hrem, hamong, hfiles⟩ :=
      h.of_started_without_text hm (mem_actions.2 ⟨hin, rfl⟩)
    rw [← hattempts, ← hremovals]
    exact ⟨rfl, rfl, rfl, hatt, hrem, hamong, hfiles⟩
  · intro launch hl name
    rw [← hstarts] at hl
    rcases h.starts_cases with hnil | ⟨source, hone⟩
    · simp [hnil] at hl
    · rw [hone, List.mem_singleton] at hl
      rw [hl]
      exact Target.get?_setAll ..
  · have hafter := congrArg World.environment (dispatch_eq_after d command w)
    exact hafter

/-- The files apart from the one that the last argument of a program names, if it names one. -/
def aside (launch : Launch) (files : FileTree τ) : FileTree τ :=
  match launch.args.getLast? with
  | some p => files.without launch.cwd p
  | none => files

namespace Sample

/-- A system with a directory for scratch files and one program. -/
def files : FileTree Unit :=
  .ofNodes [([Utf8.encode "tmp"], .directory), ([Utf8.encode "bin"], .directory),
    ([Utf8.encode "bin", Utf8.encode "go"], .file [] (.program ()))]

/-- A program that deletes its source and fails. -/
def failing : Unit → Launch → FileTree Unit → Conduct Unit :=
  fun _ launch files =>
    ⟨[(.error, Utf8.encode "no")], .exited 1, aside launch files, none, none⟩

def world : World Unit where
  files := files
  cwd := some []
  environment := .empty
  behave := failing
  wording := fun _ => ""
  pid := 7
  clock := fun _ => 5
  drawn := 0
  sizeLimit := none
  openLimit := none
  trace := []

def dispatcher : Dispatcher := ⟨"go", Utf8.encode "/tmp", .template⟩

/-- The path of the first scratch file. -/
def source : Path := Utf8.encode "/tmp/main-7-5-1.go"

end Sample

/-- A build for another system starts the program, with the text in the file that its last argument names
and with the system in its environment. -/
theorem sample_pipeline_order :
    let events := Sample.world.since
      (Sample.dispatcher.dispatch (.build ⟨some "plan9", none⟩) Sample.world).2
    (starts events).length ≤ 1 ∧ ∃ launch content files ending last,
      .started launch () content files ∈ events ∧
      launch.args = ["build", "-ldflags=-s -w", "-trimpath", "-o", "a.out"].map Utf8.encode ++
        [Sample.source] ∧
      content = some (Source.ofMode .normal).bytes ∧
      launch.environment.get? "GOOS" = some (Utf8.encode "plan9") ∧
      actions events = [.synthesized .normal none, .created Sample.source,
        .started launch () content files, .ended ending, last] := by
  intro events
  obtain ⟨hone, -, -, htext, -, henvironment, -⟩ :=
    pipeline_order Sample.dispatcher (.build ⟨some "plan9", none⟩) Sample.world
  have hin : Event.started (launchFor Sample.dispatcher (.build ⟨some "plan9", none⟩) Sample.world
      [Sample.source]) () (some (Source.ofMode .normal).bytes)
      (Sample.files.put [Utf8.encode "tmp", Utf8.encode "main-7-5-1.go"]
        (.file (Source.ofMode .normal).bytes .data)) ∈ events :=
    List.mem_of_getElem? (i := 5) rfl
  obtain ⟨text, ending, last, hs, -, hargs, hcontent, -, hactions⟩ := htext .normal _ _ _ _ rfl hin
  obtain rfl : Source.ofMode .normal = text := Except.ok.inj hs
  refine ⟨hone, _, _, _, ending, last, hin, hargs, hcontent, ?_, hactions⟩
  rw [henvironment _ (List.mem_filterMap.2 ⟨_, hin, rfl⟩)]
  rfl

end Conductor
