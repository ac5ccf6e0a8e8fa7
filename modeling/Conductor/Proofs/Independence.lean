import Conductor.World.Script
import Conductor.Proofs.Stages

/-!
# What a run does not depend on

Two statements about pairs of runs. `local_commands_independent`: a local command prints the same in any
two worlds, which may have nothing in common, and leaves either world as it was. `flags_and_logging_inert`:
runs that differ in the flag for verbose runs, in the places and the number of flags, and in the value of
the variable for the log do the same, and only what they print on standard error tells them apart.

For the second, two worlds are compared that are the same once a variable is taken out of them
(`World.without`), and every operation of the pipeline is seen to go alike in both (`Alike`, one lemma for
each operation). A program that is started is handed the variable with the rest of the environment and may
look at it. So there are two levels: that the same programs are started in the same way holds whatever
programs do, and that the runs end alike holds if the programs that are started do the same with either
value (`Heedless`). A program that prints the variable tells the runs apart (`printed_variable_differs`).
-/

namespace Conductor

variable {τ : Type}

/-! ## Local commands -/

theorem Command.isLocal_parse_iff (words : List String) :
    (parse words).IsLocal ↔
      ∀ first ∈ words.head?, first ∉ ["build", "run", "test", "go-version"] := by
  cases words with
  | nil => simp [parse, IsLocal]
  | cons first args =>
    simp only [parse, List.head?_cons, Option.mem_some_iff, forall_eq']
    split_ifs with hbuild hrun htest hrepl hversion hgo
    · simp [IsLocal, hbuild]
    · simp [IsLocal, hrun]
    · simp [IsLocal, htest]
    · simp [IsLocal, hrepl]
    · simp [IsLocal, hversion]
    · simp [IsLocal, hgo]
    · simp [IsLocal, hbuild, hrun, htest, hgo]

/-- A local command is answered by its own output, whatever it is dispatched with. -/
theorem Dispatcher.dispatch_of_localOutput? {command : Command} {output : String}
    (h : command.localOutput? = some output) (d : Dispatcher) (w : World τ) :
    d.dispatch command w = (.ok output, w.after w.files w.drawn [startRecord command]) := by
  cases command with
  | build t => cases h
  | run => cases h
  | test => cases h
  | goVersion => cases h
  | repl args | version | help =>
    rw [dispatch, h]
    rfl

namespace CommandLine

/-- A local command is answered on the spot. -/
theorem run_of_localOutput? {args : List String} {output : String}
    (h : (Command.parse (words args)).localOutput? = some output) (w : World τ) :
    (run args w).1.exitCode = 0 ∧
    (run args w).1.stdout = Report.success (formatOf args) (Command.parse (words args)) output ∧
    (run args w).2 = w := by
  rw [exitCode_run, stdout_run, world_run, perform_of_localOutput? h]
  exact ⟨rfl, rfl, rfl⟩

/-- **A local command depends on nothing but its arguments.** Take any arguments of which the first, flags
aside, is missing or is none of the words that ask for the toolchain, and any two worlds. In both the run
succeeds with the same text on standard output, and the world is left as it was found, so nothing is
started and no file is touched. The text is the report of what a dispatch of the command gives, with any
configuration, environment and synthesizer, and in any world. -/
theorem local_commands_independent {σ υ : Type} (args : List String)
    (h : ∀ first ∈ (words args).head?, first ∉ ["build", "run", "test", "go-version"])
    (w : World τ) (w' : World σ) (c : Config) (e : Environment) (s : Synthesizer) (v : World υ) :
    (run args w).1.exitCode = 0 ∧ (run args w').1.exitCode = 0 ∧
    (run args w).1.stdout = (run args w').1.stdout ∧
    (run args w).2 = w ∧ (run args w').2 = w' ∧
    ∃ output, ((Dispatcher.ofConfig c e s).dispatch (Command.parse (words args)) v).1 = .ok output ∧
      (run args w).1.stdout =
        Report.success (formatOf args) (Command.parse (words args)) output := by
  have hlocal : (Command.parse (words args)).IsLocal := (Command.isLocal_parse_iff _).2 h
  obtain ⟨output, houtput⟩ := hlocal.exists_localOutput?
  obtain ⟨hcode, hstdout, hworld⟩ := run_of_localOutput? houtput w
  obtain ⟨hcode', hstdout', hworld'⟩ := run_of_localOutput? houtput w'
  refine ⟨hcode, hcode', hstdout.trans hstdout'.symm, hworld, hworld', output, ?_, hstdout⟩
  rw [Dispatcher.dispatch_of_localOutput? houtput]

end CommandLine

/-- A system without programs, where the manifest is not text and the variables name nothing. -/
def Sample.broken : World Empty where
  files := .ofNodes [([Utf8.encode "moa.toml"], .file [0xFF] .data)]
  cwd := some []
  environment := ⟨[("MOA_TOOLCHAIN", []), ("MOA_SCRATCH_DIR", [0xFF]), ("MOA_LOG", [0xFF])]⟩
  behave := fun p => p.elim
  wording := fun _ => ""
  pid := 0
  clock := fun _ => 0
  drawn := 3
  sizeLimit := some 0
  openLimit := some 0
  trace := []

/-- The shell, asked for where a configured command works and where it does not. -/
theorem CommandLine.sample_local_commands_independent :
    words ["--json", "repl", "--verbose", "1"] = ["repl", "1"] ∧
    (run ["run"] Sample.broken).1.exitCode = 1 ∧
    (run ["--json", "repl", "--verbose", "1"] Sample.world).1.stdout =
      (run ["--json", "repl", "--verbose", "1"] Sample.broken).1.stdout ∧
    (run ["--json", "repl", "--verbose", "1"] Sample.broken).1.exitCode = 0 ∧
    (run ["--json", "repl", "--verbose", "1"] Sample.broken).2 = Sample.broken := by
  have hwords : words ["--json", "repl", "--verbose", "1"] = ["repl", "1"] := by decide
  have hfirst : ∀ first ∈ (words ["--json", "repl", "--verbose", "1"]).head?,
      first ∉ ["build", "run", "test", "go-version"] := by decide
  obtain ⟨-, hcode, hstdout, -, hworld, -⟩ := local_commands_independent
    ["--json", "repl", "--verbose", "1"] hfirst Sample.world Sample.broken .default .empty .template
    Sample.world
  exact ⟨hwords, by decide +kernel, hstdout, hcode, hworld⟩

/-! ## Worlds without a variable -/

namespace Environment

/-- Another variable can be set before or after. -/
theorem unset_set {name other : String} (h : other ≠ name) (e : Environment) (value : Bytes) :
    (e.set other value).unset name = (e.unset name).set other value := by
  simp [set, unset, h, Bool.and_comm]

theorem unset_setAll {name : String} {vars : List (String × String)} (h : ∀ v ∈ vars, v.1 ≠ name)
    (e : Environment) : (e.setAll vars).unset name = (e.unset name).setAll vars := by
  induction vars generalizing e with
  | nil => rfl
  | cons v vars ih =>
    have hrest := ih (fun u hu => h u (List.mem_cons_of_mem v hu)) (e.set v.1 (Utf8.encode v.2))
    rw [unset_set (h v List.mem_cons_self)] at hrest
    exact hrest

theorem text?_unset {name other : String} (h : other ≠ name) (e : Environment) :
    (e.unset name).text? other = e.text? other := by
  rw [text?, get?_unset, if_neg h, text?]

end Environment

/-- A start in which a variable is not handed over. -/
def Launch.without (name : String) (l : Launch) : Launch :=
  { l with environment := l.environment.unset name }

/-- What happened, if a variable had not been set. -/
def Event.without (name : String) : Event τ → Event τ
  | .started launch p source files => .started (launch.without name) p source files
  | e => e

/-- The world in which a variable is not set and never was. -/
def World.without (name : String) (w : World τ) : World τ :=
  { w with environment := w.environment.unset name, trace := w.trace.map (Event.without name) }

/-- A program that is started in the first events does the same if it is started as in the second, where
only the variable may have another value. -/
def Heedless (name : String) (behave : τ → Launch → FileTree τ → Conduct τ)
    (events events' : List (Event τ)) : Prop :=
  ∀ launch p source files, .started launch p source files ∈ events →
    ∀ launch' ∈ starts events', launch'.without name = launch.without name →
      behave p launch files = behave p launch' files

/-- With more events on either side more is asked. -/
theorem Heedless.mono {name : String} {behave : τ → Launch → FileTree τ → Conduct τ}
    {events events' less less' : List (Event τ)} (h : Heedless name behave events events')
    (hless : less ⊆ events) (hless' : less' ⊆ events') : Heedless name behave less less' := by
  intro launch p source files hin launch' hin' hsame
  obtain ⟨e, he, hstart⟩ := List.mem_filterMap.1 hin'
  exact h launch p source files (hless hin) launch' (List.mem_filterMap.2 ⟨e, hless' he, hstart⟩) hsame

theorem starts_append (events events' : List (Event τ)) :
    starts (events ++ events') = starts events ++ starts events' :=
  List.filterMap_append

/-- The programs that are started are the same, the variable aside. -/
theorem starts_without (name : String) (events : List (Event τ)) :
    starts (events.map (Event.without name)) = (starts events).map (Launch.without name) := by
  induction events with
  | nil => rfl
  | cons e events ih =>
    cases e with
    | started launch p source files => exact congrArg (Launch.without name launch :: ·) ih
    | _ => exact ih

namespace World

theorem after_without (name : String) (w : World τ) (files : FileTree τ) (drawn : Nat)
    (events : List (Event τ)) :
    (w.without name).after files drawn (events.map (Event.without name)) =
      (w.after files drawn events).without name := by
  simp [without, after]

/-- What does not depend on a variable is the same in worlds that are the same but for it. -/
theorem congr_without {α : Type} {name : String} {w w' : World τ} (f : World τ → α)
    (hf : ∀ w, f (w.without name) = f w) (h : w.without name = w'.without name) : f w = f w' := by
  rw [← hf w, h, hf w']

theorem after_without_congr {name : String} {w w' : World τ} (h : w.without name = w'.without name)
    (files : FileTree τ) (drawn : Nat) {events events' : List (Event τ)}
    (hevents : events.map (Event.without name) = events'.map (Event.without name)) :
    (w.after files drawn events).without name = (w'.after files drawn events').without name := by
  rw [← after_without, ← after_without, h, hevents]

theorem starts_congr_without {name : String} {w w' : World τ} (h : w.without name = w'.without name) :
    (starts w.trace).map (Launch.without name) = (starts w'.trace).map (Launch.without name) := by
  have htrace := congrArg (fun v : World τ => starts v.trace) h
  rwa [without, without, starts_without, starts_without] at htrace

/-- Removing a file asks for no variable. -/
theorem release_without (name : String) (w : World τ) (p : Path) :
    (w.without name).release p = (w.release p).without name := by
  have hremoval : (w.removal p).map (Event.without name) = w.removal p := by
    unfold removal
    cases w.files.remove w.cwd p with
    | ok files => rfl
    | error e => rfl
  rw [release_eq_after, release_eq_after, ← after_without, hremoval]
  rfl

/-- Creating a file asks for no variable. -/
theorem createScratch_without (name : String) (w : World τ) (dir : Path) (content : Bytes) :
    (w.without name).createScratch dir content =
      ((w.createScratch dir content).1, (w.createScratch dir content).2.without name) := by
  cases hopen : w.openNew (w.scratchPath dir) with
  | error e =>
    have hopen' : (w.without name).openNew ((w.without name).scratchPath dir) = .error e := hopen
    rw [createScratch_of_error hopen, createScratch_of_error hopen', ← after_without]
    rfl
  | ok place =>
    have hopen' : (w.without name).openNew ((w.without name).scratchPath dir) = .ok place := hopen
    have hcreated : ∀ content events, (w.without name).created dir place content
        (events.map (Event.without name)) = (w.created dir place content events).without name :=
      fun content events => after_without name w _ _ (.created (w.scratchPath dir) :: events)
    rw [createScratch_of_ok hopen, createScratch_of_ok hopen']
    rw [show (w.without name).sizeLimit = w.sizeLimit from rfl]
    cases (Scratch.Writing.ofLimit w.sizeLimit content).error with
    | some e =>
      -- What could be written is taken away again.
      have hrelease := release_without name (w.created dir place
        (Scratch.Writing.ofLimit w.sizeLimit content).content []) (w.scratchPath dir)
      rw [← hcreated] at hrelease
      exact congrArg (Prod.mk _) hrelease
    | none =>
      exact congrArg (Prod.mk _) (hcreated content [creationRecord (w.scratchPath dir) content])

/-- Creating a file changes nothing of a world but its files, its trace and the number of drawn names. -/
theorem createScratch_eq_after (w : World τ) (dir : Path) (content : Bytes) :
    ∃ files drawn events, (w.createScratch dir content).2 = w.after files drawn events := by
  cases hopen : w.openNew (w.scratchPath dir) with
  | error e =>
    rw [createScratch_of_error hopen]
    exact ⟨_, _, _, rfl⟩
  | ok place =>
    rw [createScratch_of_ok hopen]
    cases (Scratch.Writing.ofLimit w.sizeLimit content).error with
    | some e =>
      dsimp only
      rw [release_eq_after, created, after_after]
      exact ⟨_, _, _, rfl⟩
    | none => exact ⟨_, _, _, rfl⟩

/-- How an operation goes in two worlds that are the same but for a variable: the programs that are started
are the same, and all is the same if they do not heed the variable. -/
structure Alike {α : Type} (name : String) (w w' : World τ) (r r' : α × World τ) : Prop where
  starts : (starts r.2.trace).map (Launch.without name) = (starts r'.2.trace).map (Launch.without name)
  same : Heedless name w.behave (w.since r.2) (w'.since r'.2) →
    r.1 = r'.1 ∧ r.2.without name = r'.2.without name

variable {α β : Type} {name : String} {w w' : World τ} {r r' : α × World τ}

theorem alike_of_eq (hresult : r.1 = r'.1) (hworld : r.2.without name = r'.2.without name) :
    Alike name w w' r r' where
  starts := starts_congr_without hworld
  same := fun _ => ⟨hresult, hworld⟩

theorem Alike.map (h : Alike name w w' r r') (g : α → β) :
    Alike name w w' (g r.1, r.2) (g r'.1, r'.2) where
  starts := h.starts
  same := by
    intro hheed
    obtain ⟨hresult, hworld⟩ := h.same hheed
    exact ⟨congrArg g hresult, hworld⟩

/-- What happened since some time happened since an earlier time. -/
theorem since_after_subset (w : World τ) (files : FileTree τ) (drawn : Nat) (events : List (Event τ))
    (v : World τ) : (w.after files drawn events).since v ⊆ w.since v := by
  rw [since, after_trace, List.length_append, ← List.drop_drop]
  exact List.drop_subset ..

/-- What goes alike from some time on goes alike from an earlier time on. -/
theorem Alike.of_after {files files' : FileTree τ} {drawn drawn' : Nat} {events events' : List (Event τ)}
    (h : Alike name (w.after files drawn events) (w'.after files' drawn' events') r r') :
    Alike name w w' r r' where
  starts := h.starts
  same := by
    intro hheed
    exact h.same (hheed.mono (since_after_subset w ..) (since_after_subset w' ..))

/-- The removal of a file starts nothing. -/
theorem starts_removal (w : World τ) (p : Path) : Conductor.starts (w.removal p) = [] := by
  unfold removal
  cases w.files.remove w.cwd p with
  | ok files => rfl
  | error e => rfl

theorem starts_release (w : World τ) (p : Path) :
    Conductor.starts (w.release p).trace = Conductor.starts w.trace := by
  rw [release_eq_after, after_trace, starts_append, starts_removal, List.append_nil]

theorem since_subset_release (w v : World τ) (p : Path) : w.since v ⊆ w.since (v.release p) := by
  rw [since, since, release_eq_after, after_trace, List.drop_append]
  exact List.subset_append_left ..

theorem Alike.release (h : Alike name w w' r r') (p : Path) :
    Alike name w w' (r.1, r.2.release p) (r'.1, r'.2.release p) where
  starts := by
    rw [starts_release, starts_release]
    exact h.starts
  same := by
    intro hheed
    obtain ⟨hresult, hworld⟩ := h.same
      (hheed.mono (since_subset_release w r.2 p) (since_subset_release w' r'.2 p))
    refine ⟨hresult, ?_⟩
    rw [← release_without, ← release_without, hworld]

end World

/-! ## The pipeline without a variable -/

theorem World.searchPath_unset {name : String} (h : World.searchVariable ≠ name) (e : Environment) :
    World.searchPath (e.unset name) = World.searchPath e := by
  rw [searchPath, Environment.get?_unset, if_neg h, searchPath]

namespace Toolchain

/-- A program that runs to its end is started once. -/
theorem starts_ended (program : String) (args : List Bytes) (vars : List (String × String)) (launch : Launch)
    (p : τ) (source : Option Bytes) (files : FileTree τ) (conduct : Conduct τ) :
    starts ([spawnRecord program args vars, .started launch p source files, .ended conduct.ending] ++
      endRecords program conduct) = [launch] := by
  rw [starts, ← filterMap_actions _ (fun _ => rfl), actions_ended]
  rfl

section Without

variable {name : String} {vars : List (String × String)} (h : ∀ v ∈ vars, v.1 ≠ name)
  (program : String) (args : List Bytes)

include h

/-- The start of the toolchain is the same, the variable aside. -/
theorem launchFrom_without (w : World τ) :
    launchFrom (w.without name) program args vars = (launchFrom w program args vars).without name := by
  have henv := Environment.unset_setAll h w.environment
  show Launch.mk program args ((w.environment.unset name).setAll vars) w.cwd = _
  rw [← henv]
  rfl

/-- The toolchain is looked for without a look at the variable. -/
theorem resolve_without (hpath : World.searchVariable ≠ name) (w : World τ) :
    resolve (w.without name) program args vars = resolve w program args vars := by
  have hsearch : World.searchPath ((w.environment.unset name).setAll vars) =
      World.searchPath (w.environment.setAll vars) := by
    rw [← Environment.unset_setAll h, World.searchPath_unset hpath]
  have hfind : (w.without name).findProgram ((w.without name).environment.setAll vars) program =
      w.findProgram (w.environment.setAll vars) program := by
    show (if _ then _ else if _ then _ else if _ then _ else
      w.files.searchProgram w.cwd program .notFound (World.searchPath ((w.environment.unset name).setAll vars)))
        = _
    rw [hsearch]
    rfl
  unfold resolve
  rw [hfind]
  rfl

/-- The toolchain is started without a look at the variable. -/
theorem alike_invoke (hpath : World.searchVariable ≠ name) {w w' : World τ}
    (hw : w.without name = w'.without name) :
    World.Alike name w w' (invoke program args vars w) (invoke program args vars w') := by
  have hopen : w.canOpen 3 = w'.canOpen 3 := World.congr_without (World.canOpen · 3) (fun _ => rfl) hw
  have hfiles : w.files = w'.files := World.congr_without World.files (fun _ => rfl) hw
  have hdrawn : w.drawn = w'.drawn := World.congr_without World.drawn (fun _ => rfl) hw
  have hbehave : w.behave = w'.behave := World.congr_without World.behave (fun _ => rfl) hw
  have hsource : w.sourceOf args = w'.sourceOf args :=
    World.congr_without (World.sourceOf · args) (fun _ => rfl) hw
  have hresolve : resolve w program args vars = resolve w' program args vars :=
    World.congr_without (resolve · program args vars) (resolve_without h program args hpath) hw
  cases hcan : w.canOpen 3 with
  | false =>
    have hcan' : w'.canOpen 3 = false := hopen ▸ hcan
    rw [invoke_of_unpiped hcan, invoke_of_unpiped hcan']
    exact World.alike_of_eq rfl hw
  | true =>
    have hcan' : w'.canOpen 3 = true := hopen ▸ hcan
    cases hr : resolve w program args vars with
    | error e =>
      have hr' : resolve w' program args vars = .error e := hresolve ▸ hr
      rw [invoke_of_resolve_error hcan hr, invoke_of_resolve_error hcan' hr', ← hfiles, ← hdrawn]
      exact World.alike_of_eq rfl (World.after_without_congr hw _ _ rfl)
    | ok p =>
      have hr' : resolve w' program args vars = .ok p := hresolve ▸ hr
      have hlaunch : (launchFrom w' program args vars).without name =
          (launchFrom w program args vars).without name := by
        rw [← launchFrom_without h, ← launchFrom_without h, hw]
      rw [invoke_of_resolve_ok hcan hr rfl, invoke_of_resolve_ok hcan' hr' rfl]
      constructor
      · -- Whatever the program makes of the variable, it has been started by then.
        rw [World.after_trace, World.after_trace, starts_append w.trace, starts_append w'.trace,
          starts_ended, starts_ended, List.map_append, List.map_append, World.starts_congr_without hw,
          List.map_singleton, List.map_singleton, hlaunch]
      · intro hheed
        rw [World.since_eq (World.after_trace ..), World.since_eq (World.after_trace ..)] at hheed
        have hconduct := hheed (launchFrom w program args vars) p (w.sourceOf args) w.files (by simp)
          (launchFrom w' program args vars) (by rw [starts_ended]; exact List.mem_singleton_self _) hlaunch
        rw [hbehave, hfiles] at hconduct ⊢
        rw [hconduct, hdrawn, hsource]
        refine ⟨rfl, World.after_without_congr hw _ _ ?_⟩
        simp [Event.without, hlaunch]

end Without

end Toolchain

namespace Dispatcher

/-- A text is handed over in a scratch file, and the result is what the toolchain printed. -/
theorem compile_of_text {d : Dispatcher} {mode : Mode} {source : Source}
    (h : d.synthesizer mode none = .ok source) (flags : List String) (vars : List (String × String))
    (w : World τ) :
    d.compile mode flags vars w =
      (w.record (.synthesized mode none)).withScratch d.scratchDir source.bytes fun path w =>
        let r := Toolchain.invoke d.program (flags.map Utf8.encode ++ [path]) vars w
        (r.1.map Toolchain.Outcome.output, r.2) := by
  simp only [compile, h]
  congr 1
  funext path w
  rcases Toolchain.invoke d.program (flags.map Utf8.encode ++ [path]) vars w with ⟨_ | outcome, w'⟩
  · rfl
  · rfl

theorem dispatch_build (d : Dispatcher) (t : Target) (w : World τ) :
    d.dispatch (.build t) w =
      let r := d.compile .normal buildFlags t.settings (w.after w.files w.drawn [startRecord (.build t)])
      (r.1.map fun _ => "", r.2) := by
  simp only [dispatch, log_start]
  rcases d.compile .normal buildFlags t.settings _ with ⟨_ | output, w'⟩
  · rfl
  · rfl

theorem dispatch_goVersion (d : Dispatcher) (w : World τ) :
    d.dispatch .goVersion w =
      let r := Toolchain.invoke d.program [Utf8.encode "version"] []
        (w.after w.files w.drawn [startRecord .goVersion])
      (r.1.map Toolchain.Outcome.output, r.2) := by
  simp only [dispatch, log_start]
  rcases Toolchain.invoke d.program [Utf8.encode "version"] [] _ with ⟨_ | outcome, w'⟩
  · rfl
  · rfl

/-- Text goes through the pipeline without a look at the variable. -/
theorem alike_compile {name : String} {vars : List (String × String)} (h : ∀ v ∈ vars, v.1 ≠ name)
    (hpath : World.searchVariable ≠ name) (d : Dispatcher) (mode : Mode) (flags : List String)
    {w w' : World τ} (hw : w.without name = w'.without name) :
    World.Alike name w w' (d.compile mode flags vars w) (d.compile mode flags vars w') := by
  have hrecord : (w.record (.synthesized mode none)).without name =
      (w'.record (.synthesized mode none)).without name := by
    have hfiles : w.files = w'.files := World.congr_without World.files (fun _ => rfl) hw
    have hdrawn : w.drawn = w'.drawn := World.congr_without World.drawn (fun _ => rfl) hw
    rw [World.record_eq_after, World.record_eq_after, ← hfiles, ← hdrawn]
    exact World.after_without_congr hw _ _ rfl
  cases hs : d.synthesizer mode none with
  | error e =>
    simp only [compile, hs]
    exact World.alike_of_eq rfl hrecord
  | ok source =>
    rw [compile_of_text hs, compile_of_text hs, World.withScratch, World.withScratch]
    -- Both sides create the same file, or fail to do so for the same reason.
    have hcreate := World.createScratch_without name (w.record (.synthesized mode none)) d.scratchDir
      source.bytes
    rw [hrecord, World.createScratch_without] at hcreate
    obtain ⟨files, drawn, events, hafter⟩ :=
      (w.record (.synthesized mode none)).createScratch_eq_after d.scratchDir source.bytes
    obtain ⟨files', drawn', events', hafter'⟩ :=
      (w'.record (.synthesized mode none)).createScratch_eq_after d.scratchDir source.bytes
    generalize (w.record (.synthesized mode none)).createScratch d.scratchDir source.bytes = created at *
    generalize (w'.record (.synthesized mode none)).createScratch d.scratchDir source.bytes = created' at *
    obtain ⟨result, v⟩ := created
    obtain ⟨result', v'⟩ := created'
    obtain ⟨rfl, hv⟩ := Prod.mk.inj hcreate
    cases result' with
    | error f => exact World.alike_of_eq rfl hv.symm
    | ok path =>
      have hinvoke := Toolchain.alike_invoke h d.program (flags.map Utf8.encode ++ [path]) hpath hv.symm
      rw [World.record_eq_after, World.after_after] at hafter hafter'
      obtain rfl : v = _ := hafter
      obtain rfl : v' = _ := hafter'
      exact ((hinvoke.map (Except.map Toolchain.Outcome.output)).release path).of_after

/-- A build sets two variables for the toolchain and no other. -/
theorem ne_of_mem_settings {name : String} (hos : "GOOS" ≠ name) (harch : "GOARCH" ≠ name) (t : Target) :
    ∀ v ∈ t.settings, v.1 ≠ name := by
  intro v hv
  simp only [Target.settings, List.mem_append, List.mem_map] at hv
  rcases hv with ⟨os, -, rfl⟩ | ⟨arch, -, rfl⟩
  · exact hos
  · exact harch

/-- A command is dispatched without a look at the variable. -/
theorem alike_dispatch {name : String} (hos : "GOOS" ≠ name) (harch : "GOARCH" ≠ name)
    (hpath : World.searchVariable ≠ name) (d : Dispatcher) (command : Command) {w w' : World τ}
    (hw : w.without name = w'.without name) :
    World.Alike name w w' (d.dispatch command w) (d.dispatch command w') := by
  have hnone : ∀ v ∈ ([] : List (String × String)), v.1 ≠ name := by simp
  have hstart : (w.after w.files w.drawn [startRecord command]).without name =
      (w'.after w'.files w'.drawn [startRecord command]).without name := by
    have hfiles : w.files = w'.files := World.congr_without World.files (fun _ => rfl) hw
    have hdrawn : w.drawn = w'.drawn := World.congr_without World.drawn (fun _ => rfl) hw
    rw [← hfiles, ← hdrawn]
    exact World.after_without_congr hw _ _ rfl
  -- A run and a test set no variables, like a build for no target.
  have hcompile := fun (t : Target) mode flags =>
    (d.alike_compile (ne_of_mem_settings hos harch t) hpath mode flags hstart).of_after
  have hinvoke :=
    (Toolchain.alike_invoke hnone d.program [Utf8.encode "version"] hpath hstart).of_after
  cases command with
  | build t =>
    rw [dispatch_build, dispatch_build]
    exact (hcompile t .normal buildFlags).map (Except.map fun _ => "")
  | run => exact hcompile ⟨none, none⟩ .normal ["run"]
  | test => exact hcompile ⟨none, none⟩ .test ["run"]
  | goVersion =>
    rw [dispatch_goVersion, dispatch_goVersion]
    exact hinvoke.map (Except.map Toolchain.Outcome.output)
  | repl args | version | help => exact World.alike_of_eq rfl hstart

end Dispatcher

/-! ## Runs without a variable -/

namespace CommandLine

/-- The variables that a run reads for its configuration or for the search for the toolchain, or sets for the
toolchain. -/
def ownVariables : List String :=
  [Config.programVariable, Config.dirVariable, Config.temporaryVariable, World.searchVariable, "GOOS",
    "GOARCH"]

theorem ne_of_mem_ownVariables {name other : String} (h : name ∉ ownVariables)
    (ho : other ∈ ownVariables) : other ≠ name := by
  rintro rfl
  exact h ho

theorem scratchDir_unset {name : String} (h : name ∉ ownVariables) (c : Config) (e : Environment) :
    c.scratchDir (e.unset name) = c.scratchDir e := by
  have htemporary : Config.temporaryVariable ≠ name := ne_of_mem_ownVariables h (by decide)
  unfold Config.scratchDir
  cases c.dir with
  | some dir => rfl
  | none => rw [Config.temporaryDir, Environment.get?_unset, if_neg htemporary, Config.temporaryDir]

/-- The configuration comes from the manifest and from other variables. -/
theorem configured_without {name : String} (h : name ∉ ownVariables) (w : World τ) :
    configured (w.without name) = configured w := by
  have hprogram : Config.programVariable ≠ name := ne_of_mem_ownVariables h (by decide)
  have hdir : Config.dirVariable ≠ name := ne_of_mem_ownVariables h (by decide)
  have hoverride : ∀ c : Config,
      c.override (w.without name).environment = c.override w.environment := by
    intro c
    show c.override (w.environment.unset name) = c.override w.environment
    rw [Config.override, Environment.text?_unset hprogram, Environment.text?_unset hdir, Config.override]
  have hdiscover : ∀ dir, Config.discover (w.without name) dir = Config.discover w dir := by
    intro dir
    have hmanifest : Config.ofDirectory (w.without name) dir = Config.ofDirectory w dir := rfl
    simp only [Config.discover, hmanifest, hoverride]
  have hcurrent : (w.without name).currentDir? = w.currentDir? := rfl
  simp only [configured, hcurrent, hdiscover]

/-- A command is performed without a look at a variable that is none of its own. -/
theorem alike_perform {name : String} (h : name ∉ ownVariables) (command : Command) {w w' : World τ}
    (hw : w.without name = w'.without name) :
    World.Alike name w w' (perform command w) (perform command w') := by
  cases hlocal : command.localOutput? with
  | some output =>
    rw [perform_of_localOutput? hlocal, perform_of_localOutput? hlocal]
    exact World.alike_of_eq rfl hw
  | none =>
    have hconfigured : configured w = configured w' :=
      World.congr_without configured (configured_without h) hw
    rw [perform_eq hlocal, perform_eq hlocal, ← hconfigured]
    cases configured w with
    | error t => exact World.alike_of_eq rfl hw
    | ok c =>
      have hscratch : c.scratchDir w.environment = c.scratchDir w'.environment :=
        World.congr_without (fun v => c.scratchDir v.environment)
          (fun v => scratchDir_unset h c v.environment) hw
      have hafter : (w.after w.files w.drawn [configRecord c w]).without name =
          (w'.after w'.files w'.drawn [configRecord c w']).without name := by
        have hfiles : w.files = w'.files := World.congr_without World.files (fun _ => rfl) hw
        have hdrawn : w.drawn = w'.drawn := World.congr_without World.drawn (fun _ => rfl) hw
        rw [configRecord, hscratch, ← configRecord, ← hfiles, ← hdrawn]
        exact World.after_without_congr hw _ _ rfl
      have hdispatcher : Dispatcher.ofConfig c w'.environment .template =
          Dispatcher.ofConfig c w.environment .template :=
        congrArg (Dispatcher.mk c.program · .template) hscratch.symm
      have hdispatch := Dispatcher.alike_dispatch (ne_of_mem_ownVariables h (by decide))
        (ne_of_mem_ownVariables h (by decide)) (ne_of_mem_ownVariables h (by decide))
        (Dispatcher.ofConfig c w.environment .template) command hafter
      dsimp only
      rw [hdispatcher]
      exact (hdispatch.map (Except.mapError Trouble.command)).of_after

/-- What happened before a run stays on record. -/
theorem perform_trace (command : Command) (w : World τ) :
    (perform command w).2.trace = w.trace ++ w.since (perform command w).2 := by
  suffices hevents : ∃ events, (perform command w).2.trace = w.trace ++ events by
    obtain ⟨events, h⟩ := hevents
    rw [World.since_eq h, h]
  cases hlocal : command.localOutput? with
  | some output =>
    rw [perform_of_localOutput? hlocal]
    exact ⟨[], (List.append_nil _).symm⟩
  | none =>
    rw [perform_eq hlocal]
    cases configured w with
    | error t => exact ⟨[], (List.append_nil _).symm⟩
    | ok c =>
      dsimp only
      rw [dispatch_eq_after, World.after_after, World.after_trace]
      exact ⟨_, rfl⟩

/-- The starts of two runs in worlds that are the same but for a variable. -/
theorem starts_since_perform {name : String} (h : name ∉ ownVariables) (command : Command) {w w' : World τ}
    (hw : w.without name = w'.without name) :
    (starts (w.since (perform command w).2)).map (Launch.without name) =
      (starts (w'.since (perform command w').2)).map (Launch.without name) := by
  have hstarts := (alike_perform h command hw).starts
  rw [perform_trace command w, perform_trace command w', starts_append, starts_append, List.map_append,
    List.map_append, World.starts_congr_without hw] at hstarts
  exact List.append_cancel_left hstarts

/-- What stands on standard error beside the log is the complaint of a failed run. -/
theorem filter_stderr_run (args : List String) (w : World τ) :
    (run args w).1.stderr.filter (fun line => !line.isLog) =
      complaintOf (formatOf args) (perform (Command.parse (words args)) w).1 := by
  have hlog : ∀ w', (logLines args w w').filter (fun line => !line.isLog) = [] := by
    intro w'
    rw [List.filter_eq_nil_iff]
    intro line hline
    simp [isLog_of_mem_logLines hline]
  have hcomplaint : ∀ result : Except Trouble String,
      (complaintOf (formatOf args) result).filter (fun line => !line.isLog) =
        complaintOf (formatOf args) result := by
    intro result
    rw [List.filter_eq_self]
    intro line hline
    simp [isLog_of_mem_complaintOf hline]
  rw [run_eq, List.filter_append, hlog, hcomplaint, List.nil_append]

/-- **Flags and the log change nothing that a run does.** Take two lists of arguments that are the same
without their flags and that both ask for JSON or both do not, and two worlds that are the same but for the
variable for the log. Both runs start the same programs, with the same arguments, in the same directory and
with the same environment but for that variable. They end with the same exit code, the same text on standard
output, the same complaint and the same files, if the worlds are the same altogether, so that the runs differ
in their flags only, or if the program that is started does the same with the value of either run. What is
left to differ is the log. -/
theorem flags_and_logging_inert (args args' : List String) (w w' : World τ)
    (hwords : words args = words args') (hjson : jsonFlag ∈ args ↔ jsonFlag ∈ args')
    (h : w.without Log.Filter.variableName = w'.without Log.Filter.variableName) :
    (starts (w.since (run args w).2)).map (Launch.without Log.Filter.variableName) =
      (starts (w'.since (run args' w').2)).map (Launch.without Log.Filter.variableName) ∧
    (w = w' ∨ Heedless Log.Filter.variableName w.behave (w.since (run args w).2)
        (w'.since (run args' w').2) →
      (run args w).1.stdout = (run args' w').1.stdout ∧
      (run args w).1.exitCode = (run args' w').1.exitCode ∧
      (run args w).2.files = (run args' w').2.files ∧
      (run args w).1.stderr.filter (fun line => !line.isLog) =
        (run args' w').1.stderr.filter (fun line => !line.isLog)) := by
  have hformat : formatOf args = formatOf args' := by
    simp only [formatOf, List.contains_iff_mem, hjson]
  have hname : Log.Filter.variableName ∉ ownVariables := by decide
  rw [world_run, world_run, stdout_run, stdout_run, exitCode_run, exitCode_run, filter_stderr_run,
    filter_stderr_run, hwords, hformat]
  generalize Command.parse (words args') = command
  refine ⟨starts_since_perform hname command h, ?_⟩
  intro hlevel
  have hsame : (perform command w).1 = (perform command w').1 ∧
      (perform command w).2.files = (perform command w').2.files := by
    rcases hlevel with rfl | hheed
    · exact ⟨rfl, rfl⟩
    · obtain ⟨hresult, hworld⟩ := (alike_perform hname command h).same hheed
      exact ⟨hresult, World.congr_without World.files (fun _ => rfl) hworld⟩
  rw [hsame.1, hsame.2]
  exact ⟨rfl, rfl, rfl, rfl⟩

end CommandLine

/-- A script does not look at variables. -/
theorem Script.heedless_conduct (name : String) (events events' : List (Event Script)) :
    Heedless name Script.conduct events events' := by
  intro launch p source files _ launch' _ hsame
  obtain ⟨-, hargs, -, hcwd⟩ := Launch.mk.inj hsame
  simp only [Script.conduct, Script.delete, hargs, hcwd]

/-- A system with one script, which leaves a file and fails, and with that environment. -/
def Sample.scripted (environment : Environment) : World Script where
  files := .ofNodes [([Utf8.encode "tmp"], .directory), ([Utf8.encode "bin"], .directory),
    ([Utf8.encode "bin", Utf8.encode "go"], .file [] (.program
      ⟨[(.error, Utf8.encode "no: ")], true, [Utf8.encode "a.out"], true, .exited 1⟩))]
  cwd := some []
  environment := environment
  behave := Script.conduct
  wording := fun _ => ""
  pid := 7
  clock := fun _ => 5
  drawn := 0
  sizeLimit := none
  openLimit := none
  trace := []

/-- A value for the log and nothing else. -/
def Sample.logging : Environment := Environment.empty.set Log.Filter.variableName (Utf8.encode "info")

/-- A build that fails, with flags among its arguments and with a value for the log. -/
theorem CommandLine.sample_flags_and_logging_inert :
    (run ["build", "linux"] (Sample.scripted .empty)).1.stderr ≠
      (run ["--verbose", "build", "--verbose", "linux"] (Sample.scripted Sample.logging)).1.stderr ∧
    (starts ((Sample.scripted .empty).since
      (run ["build", "linux"] (Sample.scripted .empty)).2)).length = 1 ∧
    (run ["build", "linux"] (Sample.scripted .empty)).1.stdout =
      (run ["--verbose", "build", "--verbose", "linux"] (Sample.scripted Sample.logging)).1.stdout ∧
    (run ["build", "linux"] (Sample.scripted .empty)).2.files =
      (run ["--verbose", "build", "--verbose", "linux"] (Sample.scripted Sample.logging)).2.files := by
  obtain ⟨-, hends⟩ := flags_and_logging_inert ["build", "linux"]
    ["--verbose", "build", "--verbose", "linux"] (Sample.scripted .empty)
    (Sample.scripted Sample.logging) (by decide) (by decide) (by rfl)
  obtain ⟨hstdout, -, hfiles, -⟩ := hends (Or.inr (Script.heedless_conduct _ _ _))
  exact ⟨by decide +kernel, by decide +kernel, hstdout, hfiles⟩

/-- The system, with a program that prints the variable for the log. -/
def Sample.printing (environment : Environment) : World Script :=
  { Sample.scripted environment with
    behave := fun _ launch files =>
      ⟨[(.output, (launch.environment.get? "MOA_LOG").getD [])], .exited 0, files, none, none⟩ }

/-- Two runs with the same arguments, in worlds that are the same but for the variable for the log: the program
prints it, and so the runs differ in what they print. -/
theorem CommandLine.printed_variable_differs :
    (Sample.printing .empty).without Log.Filter.variableName =
      (Sample.printing Sample.logging).without Log.Filter.variableName ∧
    (run ["run"] (Sample.printing .empty)).1.stdout = "" ∧
    (run ["run"] (Sample.printing Sample.logging)).1.stdout = "info" :=
  ⟨rfl, by decide +kernel, by decide +kernel⟩

end Conductor
