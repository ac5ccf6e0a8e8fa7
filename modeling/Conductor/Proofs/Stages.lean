import Conductor.Proofs.Reports

/-!
# Where a run fails

A command that is not local needs five things, one after the other: a configuration, a scratch file with
the program text in it (unless it needs no text), a program that can be started, word of what came of the
program, and a good end of it. Each stage is written down here as a function of the world that the run found,
without the log, the removal of the scratch file and the way back of errors (`configured`, `supplied`,
`started`, `conducted`). `Completes` says that all of them succeed and `Halts` which one is the first to fail,
and with what trouble.

`run_stops_at_first_failure` compares a run with them: it succeeds exactly where all stages do, and
otherwise it reports the first that fails and has done nothing for the ones after it. The fourth stage is easily
overlooked. A program may have exited with zero, and the run fails all the same, as if the program had never
been started, because the process cannot wait for it or read its output (`unlearned_end_fails`).
-/

namespace Conductor

variable {τ : Type}

/-- A command that is answered without the toolchain. -/
def Command.IsLocal : Command → Prop
  | .repl _ | .version | .help => True
  | .build _ | .run | .test | .goVersion => False

theorem Command.localOutput?_eq_none_iff {command : Command} :
    command.localOutput? = none ↔ ¬ command.IsLocal := by
  cases command with
  | repl args => cases args <;> simp [localOutput?, IsLocal]
  | _ => simp [localOutput?, IsLocal]

theorem Command.IsLocal.exists_localOutput? {command : Command} (h : command.IsLocal) :
    ∃ output, command.localOutput? = some output :=
  Option.ne_none_iff_exists'.1 (mt Command.localOutput?_eq_none_iff.1 (not_not_intro h))

namespace CommandLine

/-! ## The stages -/

/-- The stages of a run, in their order. -/
inductive Phase where
  | configuration
  | scratchFile
  | start
  /-- The process waits for the program and reads its output. -/
  | capture
  | ending
  deriving DecidableEq, Repr

namespace Phase

/-- The name under which a failure at a stage is reported. -/
def kind : Phase → String
  | configuration => "config"
  | scratchFile => "artifact"
  | start => "spawn"
  | capture => "spawn"
  | ending => "toolchain"

/-- The place of a stage in the order. -/
def rank : Phase → Nat
  | configuration => 0
  | scratchFile => 1
  | start => 2
  | capture => 3
  | ending => 4

end Phase

/-- The configuration for the working directory. -/
def configured (w : World τ) : Except Trouble Config :=
  match w.currentDir? with
  | none => .error .noDirectory
  | some dir =>
    match Config.discover w dir with
    | .error e => .error (.config e)
    | .ok c => .ok c

/-- The scratch file of a run. -/
def sourcePath (c : Config) (w : World τ) : Path :=
  w.scratchPath (c.scratchDir w.environment)

/-- The files with the program text in place, if the command needs one. -/
def supplied (command : Command) (w : World τ) (c : Config) : Except SystemError (FileTree τ) :=
  match command.mode? with
  | none => .ok w.files
  | some mode =>
    match w.openNew (sourcePath c w) with
    | .error e => .error e
    | .ok place =>
      match (Scratch.Writing.ofLimit w.sizeLimit (Source.ofMode mode).bytes).error with
      | some e => .error e
      | none => .ok (w.files.put place (.file (Source.ofMode mode).bytes .data))

/-- How the configured program is to be started. -/
def launchOf (command : Command) (w : World τ) (c : Config) : Launch where
  program := c.program
  args := command.flags.map Utf8.encode ++ if command.mode?.isSome then [sourcePath c w] else []
  environment := w.environment.setAll command.target.settings
  cwd := w.cwd

/-- The configured program among the given files, if it can be started. -/
def started (command : Command) (w : World τ) (c : Config) (files : FileTree τ) :
    Except SystemError τ :=
  if w.canOpen 3 then
    Toolchain.resolve { w with files := files } c.program (launchOf command w c).args
      command.target.settings
  else .error .tooManyOpenFiles

/-- What a program does that is started among the given files. -/
def conducted (command : Command) (w : World τ) (c : Config) (files : FileTree τ) (p : τ) :
    Conduct τ :=
  w.behave p (launchOf command w c) files

/-- Every stage succeeds. -/
def Completes (command : Command) (w : World τ) : Prop :=
  ∃ c files p, configured w = .ok c ∧ supplied command w c = .ok files ∧
    started command w c files = .ok p ∧ (conducted command w c files p).unlearned? = none ∧
    (conducted command w c files p).ending = .exited 0

/-- The stage is the first to fail, and that is the trouble with it. -/
inductive Halts (command : Command) (w : World τ) : Phase → Trouble → Prop
  | configuration (t : Trouble) (h : configured w = .error t) : Halts command w .configuration t
  | scratchFile (c : Config) (e : SystemError) (hc : configured w = .ok c)
      (h : supplied command w c = .error e) :
      Halts command w .scratchFile (.command (.artifact (sourcePath c w) e))
  | start (c : Config) (files : FileTree τ) (e : SystemError) (hc : configured w = .ok c)
      (hs : supplied command w c = .ok files) (h : started command w c files = .error e) :
      Halts command w .start (.command (.spawn c.program e))
  /-- What is reported is the same as if the program had not been started. -/
  | capture (c : Config) (files : FileTree τ) (p : τ) (e : SystemError) (hc : configured w = .ok c)
      (hs : supplied command w c = .ok files) (hp : started command w c files = .ok p)
      (h : (conducted command w c files p).unlearned? = some e) :
      Halts command w .capture (.command (.spawn c.program e))
  /-- The exit code is lost if the program died from a signal, and the output is all that it wrote. -/
  | ending (c : Config) (files : FileTree τ) (p : τ) (conduct : Conduct τ) (hc : configured w = .ok c)
      (hs : supplied command w c = .ok files) (hp : started command w c files = .ok p)
      (hd : conduct = conducted command w c files p) (hlearned : conduct.unlearned? = none)
      (h : conduct.ending ≠ .exited 0) :
      Halts command w .ending (.command (.toolchain c.program
        (match conduct.ending with
          | .exited code => some code
          | .signalled _ => none)
        (Utf8.decodeLossy (conduct.writes.flatMap Prod.snd))))

theorem Halts.kind {command : Command} {w : World τ} {phase : Phase} {t : Trouble}
    (h : Halts command w phase t) : t.kind = phase.kind := by
  cases h with
  | configuration t h =>
    unfold configured at h
    split at h
    · cases h
      rfl
    · split at h
      · cases h
        rfl
      · cases h
  | _ => rfl

/-- A run does not fail where every stage succeeds. -/
theorem Halts.not_completes {command : Command} {w : World τ} {phase : Phase} {t : Trouble}
    (h : Halts command w phase t) : ¬ Completes command w := by
  rintro ⟨c, files, p, hc, hs, hp, hlearned, hend⟩
  cases h with
  | configuration t h => simp [hc] at h
  | scratchFile c' e hc' h =>
    obtain rfl : c = c' := Except.ok.inj (hc.symm.trans hc')
    simp [hs] at h
  | start c' files' e hc' hs' h =>
    obtain rfl : c = c' := Except.ok.inj (hc.symm.trans hc')
    obtain rfl : files = files' := Except.ok.inj (hs.symm.trans hs')
    simp [hp] at h
  | capture c' files' p' e hc' hs' hp' h =>
    obtain rfl : c = c' := Except.ok.inj (hc.symm.trans hc')
    obtain rfl : files = files' := Except.ok.inj (hs.symm.trans hs')
    obtain rfl : p = p' := Except.ok.inj (hp.symm.trans hp')
    simp [hlearned] at h
  | ending c' files' p' conduct hc' hs' hp' hd hlearned' h =>
    obtain rfl : c = c' := Except.ok.inj (hc.symm.trans hc')
    obtain rfl : files = files' := Except.ok.inj (hs.symm.trans hs')
    obtain rfl : p = p' := Except.ok.inj (hp.symm.trans hp')
    exact h (hd ▸ hend)

/-! ## What happens at a stage -/

/-- The stage for which something happens. The toolchain has its own records in the log, from the attempt
to start a program on; what is removed is removed for no stage; and nothing more happens when the end of the
program is looked at. -/
def phase? : Event τ → Option Phase
  | .synthesized .. | .created .. | .notCreated .. => some .scratchFile
  | .logged r => if r.target = Toolchain.target then some .start else none
  | .started .. | .ended .. => some .capture
  | .removed .. | .notRemoved .. => none

/-- Nothing happens for a later stage. -/
def Within (phase : Phase) (events : List (Event τ)) : Prop :=
  ∀ e ∈ events, ∀ q, phase? e = some q → q.rank ≤ phase.rank

theorem rank_phase?_le (e : Event τ) {q : Phase} (h : phase? e = some q) : q.rank ≤ Phase.capture.rank := by
  cases e with
  | logged r =>
    rw [phase?] at h
    split at h
    · obtain rfl := Option.some.inj h
      decide
    · cases h
  | removed | notRemoved => cases h
  | _ =>
    obtain rfl := Option.some.inj h
    decide

/-- Once a program is started, all stages have had their turn. -/
theorem within_of_capture_le {phase : Phase} (h : Phase.capture.rank ≤ phase.rank) (events : List (Event τ)) :
    Within phase events :=
  fun e _ _ hq => Nat.le_trans (rank_phase?_le e hq) h

theorem Within.mono {phase phase' : Phase} {events : List (Event τ)} (h : Within phase events)
    (hle : phase.rank ≤ phase'.rank) : Within phase' events :=
  fun e he q hq => Nat.le_trans (h e he q hq) hle

theorem within_append {phase : Phase} {events events' : List (Event τ)} :
    Within phase (events ++ events') ↔ Within phase events ∧ Within phase events' :=
  List.forall_mem_append

theorem within_removal (phase : Phase) (w : World τ) (p : Path) : Within phase (w.removal p) := by
  unfold World.removal
  cases w.files.remove w.cwd p with
  | ok files => simp [Within, phase?, Scratch.target, Toolchain.target]
  | error e => simp [Within, phase?, Scratch.target, Toolchain.target]

/-- The result is the one that the stages give, and nothing was done for the stages after the first that
failed. -/
def Follows {α : Type} (command : Command) (w : World τ) (r : Except Failure α) (w' : World τ) : Prop :=
  match r with
  | .ok _ => Completes command w
  | .error f => ∃ phase, Halts command w phase (.command f) ∧
      ∃ events, w'.trace = w.trace ++ events ∧ Within phase events

theorem follows_error {α : Type} {command : Command} {w w' : World τ} {phase : Phase} {f : Failure}
    (events : List (Event τ)) (h : Halts command w phase (.command f))
    (htrace : w'.trace = w.trace ++ events) (hwithin : Within phase events) :
    Follows command w (.error f : Except Failure α) w' :=
  ⟨phase, h, events, htrace, hwithin⟩

theorem Follows.map {α β : Type} {command : Command} {w w' : World τ} {r : Except Failure α}
    (h : Follows command w r w') (g : α → β) : Follows command w (r.map g) w' := by
  cases r with
  | ok a => exact h
  | error f => exact h

/-- Whether the scratch file can be removed has no part in the result. -/
theorem Follows.release {α : Type} {command : Command} {w w' : World τ} {r : Except Failure α}
    (h : Follows command w r w') (p : Path) : Follows command w r (w'.release p) := by
  cases r with
  | ok a => exact h
  | error f =>
    obtain ⟨phase, hhalts, events, htrace, hwithin⟩ := h
    refine follows_error (events ++ w'.removal p) hhalts ?_ ?_
    · rw [World.release_eq_after, World.after_trace, htrace, List.append_assoc]
    · exact within_append.2 ⟨hwithin, within_removal phase w' p⟩

/-- A start does not hang on what has happened before, but for the files. -/
theorem started_eq_resolve {command : Command} {w : World τ} (c : Config) (files : FileTree τ)
    (drawn : Nat) (before : List (Event τ)) (h : w.canOpen 3 = true) :
    started command w c files = Toolchain.resolve (w.after files drawn before) c.program
      (launchOf command w c).args command.target.settings := by
  rw [started, if_pos h]
  rfl

/-- The three last stages are the invocation of the toolchain. -/
theorem follows_invocation {command : Command} {w w' : World τ} {c : Config} {files : FileTree τ}
    {drawn : Nat} {before : List (Event τ)} {r : Except Failure Toolchain.Outcome}
    (hc : configured w = .ok c) (hs : supplied command w c = .ok files)
    (hbefore : Within .scratchFile before)
    (hi : Toolchain.Invocation c.program (launchOf command w c).args command.target.settings
      (w.after files drawn before) r w') : Follows command w r w' := by
  have hearly : Within .start before := hbefore.mono (by decide)
  cases hi with
  | unpiped h =>
    have hstart : started command w c files = .error .tooManyOpenFiles := by
      rw [started, if_neg (by simpa using h)]
    exact follows_error before (.start c files _ hc hs hstart) rfl hearly
  | unstarted e h hr =>
    have hcan : w.canOpen 3 = true := h
    have hstart : started command w c files = .error e := by
      rw [started_eq_resolve c files drawn before hcan, hr]
    refine follows_error (before ++ [Toolchain.spawnRecord c.program (launchOf command w c).args
      command.target.settings]) (.start c files e hc hs hstart) ?_ (within_append.2 ⟨hearly, ?_⟩)
    · rw [World.after_trace, World.after_trace, List.append_assoc]
    · simp [Within, phase?, Toolchain.spawnRecord]
  | ended p conduct h hr hd =>
    have hcan : w.canOpen 3 = true := h
    have hstart : started command w c files = .ok p := by
      rw [started_eq_resolve c files drawn before hcan, hr]
    have hconduct : conduct = conducted command w c files p := hd
    unfold Toolchain.verdict
    cases hlearned : conduct.unlearned? with
    | some e =>
      exact follows_error _ (.capture c files p e hc hs hstart (hconduct ▸ hlearned))
        (List.append_assoc w.trace before _) (within_of_capture_le (by decide) _)
    | none =>
      dsimp only
      by_cases hend : conduct.ending = .exited 0
      · rw [if_pos hend]
        exact ⟨c, files, p, hc, hs, hstart, hconduct ▸ hlearned, hconduct ▸ hend⟩
      · rw [if_neg hend]
        exact follows_error _ (.ending c files p conduct hc hs hstart hconduct hlearned hend)
          (List.append_assoc w.trace before _) (within_of_capture_le (by decide) _)

/-- The scratch file is supplied before the toolchain is asked. -/
theorem follows_compile {command : Command} {w w' : World τ} {c : Config} {mode : Mode}
    {before : List (Event τ)} {r : Except Failure String} (hc : configured w = .ok c)
    (hm : command.mode? = some mode) (hbefore : Within .scratchFile before)
    (h : (Dispatcher.ofConfig c w.environment .template).CompileOutcome mode command.flags
      command.target.settings (w.after w.files w.drawn before) r w') : Follows command w r w' := by
  have hsynthesized : Within .scratchFile (before ++ [.synthesized mode none]) :=
    within_append.2 ⟨hbefore, by simp [Within, phase?]⟩
  cases h with
  | refused e hs => cases hs
  | uncreated source e hs ho =>
    have hopen : w.openNew (sourcePath c w) = .error e := ho
    have hsupplied : supplied command w c = .error e := by simp only [supplied, hm, hopen]
    refine follows_error (before ++ [.synthesized mode none] ++ [.notCreated (sourcePath c w) e])
      (.scratchFile c e hc hsupplied) ?_ (within_append.2 ⟨hsynthesized, ?_⟩)
    · simp [World.record_eq_after, sourcePath, Dispatcher.ofConfig]
    · simp [Within, phase?]
  | unwritten source place e hs ho he =>
    cases hs
    have hopen : w.openNew (sourcePath c w) = .ok place := ho
    have hwrite : (Scratch.Writing.ofLimit w.sizeLimit (Source.ofMode mode).bytes).error = some e := he
    have hsupplied : supplied command w c = .error e := by simp only [supplied, hm, hopen, hwrite]
    refine Follows.release (follows_error (before ++ [.synthesized mode none] ++
      [.created (sourcePath c w)]) (.scratchFile c e hc hsupplied) ?_
      (within_append.2 ⟨hsynthesized, ?_⟩)) _
    · simp [World.record_eq_after, World.created, sourcePath, Dispatcher.ofConfig, World.scratchPath,
        World.nextName]
    · simp [Within, phase?]
  | used source place r w' hs ho he hi =>
    cases hs
    have hopen : w.openNew (sourcePath c w) = .ok place := ho
    have hwrite : (Scratch.Writing.ofLimit w.sizeLimit (Source.ofMode mode).bytes).error = none := he
    have hsupplied : supplied command w c =
        .ok (w.files.put place (.file (Source.ofMode mode).bytes .data)) := by
      simp only [supplied, hm, hopen, hwrite]
    have hargs : (launchOf command w c).args =
        command.flags.map Utf8.encode ++ [sourcePath c w] := by
      simp [launchOf, hm]
    have hcreated : Within .scratchFile (before ++ [.synthesized mode none] ++
        [.created (sourcePath c w),
          World.creationRecord (sourcePath c w) (Source.ofMode mode).bytes]) :=
      within_append.2 ⟨hsynthesized, by
        simp [Within, phase?, World.creationRecord, Scratch.target, Toolchain.target]⟩
    have hi : Toolchain.Invocation c.program (launchOf command w c).args command.target.settings
        (w.after (w.files.put place (.file (Source.ofMode mode).bytes .data)) (w.drawn + 1)
          (before ++ [.synthesized mode none] ++ [.created (sourcePath c w),
            World.creationRecord (sourcePath c w) (Source.ofMode mode).bytes])) r w' := by
      rw [hargs]
      simpa [World.created, World.record_eq_after, sourcePath, Dispatcher.ofConfig] using hi
    exact ((follows_invocation hc hsupplied hcreated hi).map _).release _

/-- The stages after the configuration are what a dispatch does. -/
theorem follows_dispatch {command : Command} {w w' : World τ} {c : Config} {record : Event τ}
    {r : Except Failure String} (hlocal : command.localOutput? = none) (hc : configured w = .ok c)
    (hrecord : phase? record = none)
    (h : (Dispatcher.ofConfig c w.environment .template).DispatchOutcome command
      (w.after w.files w.drawn [record]) r w') : Follows command w r w' := by
  have hstart : phase? (Dispatcher.startRecord command : Event τ) = none := by
    simp [phase?, Dispatcher.startRecord, Dispatcher.target, Toolchain.target]
  have hbefore : Within .scratchFile [record, Dispatcher.startRecord command] := by
    simp [Within, hrecord, hstart]
  cases h with
  | answered output h => simp [hlocal] at h
  | asked h r w' hi =>
    subst h
    rw [World.after_after] at hi
    have hi : Toolchain.Invocation c.program (launchOf .goVersion w c).args
      (Command.target .goVersion).settings (w.after w.files w.drawn _) r w' := hi
    exact (follows_invocation hc rfl hbefore hi).map _
  | compiled mode hm r w' hcompile =>
    rw [World.after_after] at hcompile
    exact (follows_compile hc hm hbefore hcompile).map _

/-! ## Runs -/

/-- Nothing has been done for the stages after that one. -/
structure StopsAt (phase : Phase) (w w' : World τ) : Prop where
  within : Within phase (w.since w')
  /-- Without a configuration nothing has happened at all. -/
  unchanged : phase = .configuration → w' = w
  /-- Only a program that runs can leave other files. -/
  files : phase.rank < Phase.capture.rank → w'.files = w.files

theorem stopsAt_configuration (w : World τ) : StopsAt .configuration w w where
  within := by simp [Within, World.since]
  unchanged := fun _ => rfl
  files := fun _ => rfl

/-- A program that runs is no business of the stages up to its start. -/
theorem Within.starts_eq_nil {phase : Phase} {events : List (Event τ)} (h : Within phase events)
    (hphase : phase.rank < Phase.capture.rank) : starts events = [] := by
  have hnone : ∀ e ∈ events, e.start? = none := by
    intro e he
    cases e with
    | started launch p source files => exact absurd (h _ he .capture rfl) (Nat.not_le.2 hphase)
    | _ => rfl
  exact List.filterMap_eq_nil_iff.2 hnone

end CommandLine

/-- Only a program that is started leaves other files. -/
theorem DispatchActions.files_of_starts {d : Dispatcher} {command : Command} {w : World τ} {l : List (Event τ)}
    {files : FileTree τ} (h : DispatchActions d command w l files) (hs : starts l = []) : files = w.files := by
  cases h with
  | asked => simp [starts, Event.start?] at hs
  | used => simp [starts, Event.start?] at hs
  | _ => rfl

namespace CommandLine

/-- The log record of a configuration that was found. -/
def configRecord (c : Config) (w : World τ) : Event τ :=
  .logged ⟨.debug, "moa",
    "toolchain=" ++ c.program ++ " scratch_dir=" ++ Path.text (c.scratchDir w.environment)⟩

theorem phase?_configRecord (c : Config) (w : World τ) : phase? (configRecord c w) = none := by
  simp [phase?, configRecord, Toolchain.target]

/-- A command that is not local is dispatched with the configuration. -/
theorem perform_eq {command : Command} (hlocal : command.localOutput? = none) (w : World τ) :
    perform command w =
      match configured w with
      | .error t => (.error t, w)
      | .ok c =>
        let r := (Dispatcher.ofConfig c w.environment .template).dispatch command
          (w.after w.files w.drawn [configRecord c w])
        (r.1.mapError .command, r.2) := by
  unfold perform configured
  rw [hlocal]
  cases w.currentDir? with
  | none => rfl
  | some dir =>
    dsimp only
    cases Config.discover w dir with
    | error e => rfl
    | ok c =>
      have hlog : w.log .debug "moa" ("toolchain=" ++ c.program ++ " scratch_dir=" ++
          Path.text (c.scratchDir w.environment)) = w.after w.files w.drawn [configRecord c w] := rfl
      dsimp only
      rw [hlog, World.after_environment]
      rcases (Dispatcher.ofConfig c w.environment .template).dispatch command
        (w.after w.files w.drawn [configRecord c w]) with ⟨_ | output, w'⟩
      · rfl
      · rfl

/-- Between the configuration and the end of a run lies one dispatch. -/
theorem stopsAt_dispatch {command : Command} {w : World τ} {c : Config} {phase : Phase} {t : Trouble}
    {record : Event τ} {d : Dispatcher} {events : List (Event τ)} (hc : configured w = .ok c)
    (hhalts : Halts command w phase t)
    (htrace : (d.dispatch command (w.after w.files w.drawn [record])).2.trace = w.trace ++ events)
    (hwithin : Within phase events) :
    StopsAt phase w (d.dispatch command (w.after w.files w.drawn [record])).2 where
  within := by rwa [World.since_eq htrace]
  unchanged := by
    rintro rfl
    cases hhalts with
    | configuration t h => simp [hc] at h
  files := by
    intro hphase
    have hactions := dispatch_actions d command (w.after w.files w.drawn [record])
    have hafter := congrArg World.trace (dispatch_eq_after d command (w.after w.files w.drawn [record]))
    generalize (d.dispatch command (w.after w.files w.drawn [record])).2 = w' at *
    -- What the dispatch has seen is what the run has seen, but for the record before it.
    have hevents : events = record :: (w.after w.files w.drawn [record]).since w' := by
      rw [htrace, World.after_trace, World.after_trace, List.append_assoc] at hafter
      exact List.append_cancel_left hafter
    have hlater : Within phase ((w.after w.files w.drawn [record]).since w') :=
      fun e he => hwithin e (by rw [hevents]; exact List.mem_cons_of_mem _ he)
    have hstarts : starts (actions ((w.after w.files w.drawn [record]).since w')) = [] :=
      (filterMap_actions _ (fun _ => rfl) _).trans (hlater.starts_eq_nil hphase)
    exact hactions.files_of_starts hstarts

theorem exitCode_run (args : List String) (w : World τ) :
    (run args w).1.exitCode = exitCodeOf (perform (Command.parse (words args)) w).1 := by
  rw [run_eq]

theorem stdout_run (args : List String) (w : World τ) :
    (run args w).1.stdout = reportOf (formatOf args) (Command.parse (words args))
      (perform (Command.parse (words args)) w).1 := by
  rw [run_eq]

theorem world_run (args : List String) (w : World τ) :
    (run args w).2 = (perform (Command.parse (words args)) w).2 := by
  rw [run_eq]

theorem perform_of_localOutput? {command : Command} {output : String}
    (h : command.localOutput? = some output) (w : World τ) : perform command w = (.ok output, w) := by
  rw [perform, h]

/-- What comes of a command that is not local: all stages succeed, or the first that fails tells what
the trouble is. -/
theorem perform_stages {command : Command} (w : World τ) (hlocal : ¬ command.IsLocal) :
    (∃ output, (perform command w).1 = .ok output ∧ Completes command w) ∨
    ∃ phase t, (perform command w).1 = .error t ∧ Halts command w phase t ∧
      StopsAt phase w (perform command w).2 := by
  rw [perform_eq (Command.localOutput?_eq_none_iff.2 hlocal)]
  cases hc : configured w with
  | error t => exact Or.inr ⟨.configuration, t, rfl, .configuration t hc, stopsAt_configuration w⟩
  | ok c =>
    have hfollows := follows_dispatch (Command.localOutput?_eq_none_iff.2 hlocal) hc
      (phase?_configRecord c w) (Dispatcher.dispatch_outcome _ command _)
    dsimp only
    cases hr : ((Dispatcher.ofConfig c w.environment .template).dispatch command
      (w.after w.files w.drawn [configRecord c w])).1 with
    | ok output =>
      rw [hr] at hfollows
      exact Or.inl ⟨output, rfl, hfollows⟩
    | error f =>
      rw [hr] at hfollows
      obtain ⟨phase, hhalts, events, htrace, hwithin⟩ := hfollows
      exact Or.inr ⟨phase, .command f, rfl, hhalts, stopsAt_dispatch hc hhalts htrace hwithin⟩

/-- A run with those arguments failed at that stage, with that trouble. -/
structure FailsAt (args : List String) (w : World τ) (done : Completion × World τ) (phase : Phase)
    (t : Trouble) : Prop where
  exitCode : done.1.exitCode = 1
  result : (perform (Command.parse (words args)) w).1 = .error t
  kind : t.kind = phase.kind
  first : Halts (Command.parse (words args)) w phase t
  stops : StopsAt phase w done.2
  json : jsonFlag ∈ args → ∃ value, Json.read? done.1.stdout = some value ∧
    value.field? "error" = some (.str phase.kind) ∧
    value.field? "message" = some (.str t.message) ∧
    ∀ program code output, t = .command (.toolchain program code output) →
      value.field? "output" = some (.str output)
  text : jsonFlag ∉ args → done.1.stderr.getLast? = some (.trouble t.message)

/-- What is reported is the trouble of the stage. -/
theorem failsAt_run {args : List String} {w : World τ} {phase : Phase} {t : Trouble}
    (hresult : (perform (Command.parse (words args)) w).1 = .error t)
    (hhalts : Halts (Command.parse (words args)) w phase t)
    (hstops : StopsAt phase w (perform (Command.parse (words args)) w).2) :
    FailsAt args w (run args w) phase t := by
  rw [run_eq]
  dsimp only
  rw [hresult]
  exact {
    exitCode := rfl
    result := hresult
    kind := hhalts.kind
    first := hhalts
    stops := hstops
    json := by
      intro hjson
      have hformat : formatOf args = .json := if_pos (List.contains_iff_mem.2 hjson)
      obtain ⟨herror, hmessage, -⟩ := field?_valueOf_error (Command.parse (words args)) t
      refine ⟨valueOf (Command.parse (words args)) (.error t), ?_, ?_, hmessage, ?_⟩
      · rw [hformat]
        exact read?_reportOf _ _
      · rw [herror, hhalts.kind]
      · rintro program code output rfl
        rfl
    text := by
      intro htext
      have hformat : formatOf args = .text := if_neg (mt List.contains_iff_mem.1 htext)
      rw [hformat]
      simp [complaintOf] }

/-- **A run fails at its first failing stage and only there.** Whatever the arguments, the files, the
environment and the programs are, the exit code is zero if and only if the command is local or all its stages
succeed: a configuration is found, the scratch file is created and written in full if the command needs
one, the configured program is started, the process learns what came of it, and it exited with zero. Otherwise
the exit code is one, what is reported is the first stage that fails, and nothing is done for the stages after
it. -/
theorem run_stops_at_first_failure (args : List String) (w : World τ) :
    let command := Command.parse (words args)
    ((run args w).1.exitCode = 0 ↔ command.IsLocal ∨ Completes command w) ∧
    ((run args w).1.exitCode ≠ 0 → ∃ phase t, FailsAt args w (run args w) phase t) := by
  intro command
  by_cases hlocal : command.IsLocal
  · obtain ⟨output, houtput⟩ := hlocal.exists_localOutput?
    have hcode : (run args w).1.exitCode = 0 := by
      rw [exitCode_run, perform_of_localOutput? houtput]
      rfl
    exact ⟨iff_of_true hcode (Or.inl hlocal), fun h => absurd hcode h⟩
  rcases perform_stages w hlocal with ⟨output, hresult, hcompletes⟩ | ⟨phase, t, hresult, hhalts, hstops⟩
  · have hcode : (run args w).1.exitCode = 0 := by
      rw [exitCode_run, hresult]
      rfl
    exact ⟨iff_of_true hcode (Or.inr hcompletes), fun h => absurd hcode h⟩
  · have hfails : FailsAt args w (run args w) phase t := failsAt_run hresult hhalts hstops
    have hcode : (run args w).1.exitCode ≠ 0 := by
      rw [hfails.exitCode]
      exact Nat.one_ne_zero
    exact ⟨iff_of_false hcode (not_or.2 ⟨hlocal, hhalts.not_completes⟩), fun _ => ⟨phase, t, hfails⟩⟩

/-- A program that exits with one after it has printed something, in a run that reports in JSON. -/
theorem sample_run_stops_at_first_failure :
    (run ["run", "--json"] Sample.world).1.exitCode ≠ 0 ∧
    FailsAt ["run", "--json"] Sample.world (run ["run", "--json"] Sample.world) .ending
      (.command (.toolchain "go" (some 1) "no")) := by
  have hcode : (run ["run", "--json"] Sample.world).1.exitCode ≠ 0 := by decide +kernel
  have hended : (perform (Command.parse (words ["run", "--json"])) Sample.world).1 =
      .error (.command (.toolchain "go" (some 1) "no")) := by decide +kernel
  obtain ⟨phase, t, hfails⟩ := (run_stops_at_first_failure ["run", "--json"] Sample.world).2 hcode
  obtain rfl := Except.error.inj (hended.symm.trans hfails.result)
  obtain rfl : phase = .ending := by
    have hkind := hfails.kind
    revert hkind
    cases phase <;> decide
  exact ⟨hcode, hfails⟩

end CommandLine

/-- The sample system, with a program that exits with zero and that the process cannot wait for. -/
def Sample.reaped : World Unit :=
  { Sample.world with behave := fun _ _ files => ⟨[], .exited 0, files, some .noChild, none⟩ }

namespace CommandLine

/-- A run in which a configuration is found, the scratch file is created and written, the program is started,
and the program exits with zero; and still the run fails, and the trouble is said to be with the start. -/
theorem unlearned_end_fails :
    (∃ c files p, configured Sample.reaped = .ok c ∧ supplied .run Sample.reaped c = .ok files ∧
      started .run Sample.reaped c files = .ok p ∧
      (conducted .run Sample.reaped c files p).ending = .exited 0) ∧
    (run ["run"] Sample.reaped).1.exitCode = 1 ∧
    (perform .run Sample.reaped).1 = .error (.command (.spawn "go" .noChild)) ∧
    (Trouble.command (.spawn "go" .noChild)).kind = "spawn" :=
  ⟨⟨default, _, (), by decide +kernel, rfl, rfl, rfl⟩, by decide +kernel, by decide +kernel, rfl⟩

end CommandLine

end Conductor
