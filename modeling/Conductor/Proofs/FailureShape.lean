import Conductor.Proofs.Stages

/-!
# The shape of failure reports

A failed run that reports in JSON prints one line with one object, for which five members are documented:
the command, the stage that failed, the message, the output of the toolchain or `null`, and the status. The
report is written in two places, one for a command that was dispatched and one for a run that found no
configuration. `json_failure_members` says what both write: the documented members, and all of them but the
output. So the documented shape is that of every failure but those of the configuration
(`unconfigured_failure_lacks_output`).
-/

namespace Conductor

variable {τ : Type}

namespace CommandLine

/-- What the toolchain printed, if it is the toolchain that failed. -/
def Trouble.output? : Trouble → Option String
  | .command f => f.output?
  | _ => none

/-- The members that are documented for the report of a failed run, in the order of their names. -/
def documentedMembers (command : Command) (t : Trouble) : List (String × Json) :=
  [("command", .str command.name), ("error", .str t.kind), ("message", .str t.message),
    ("output", Json.optStr t.output?), ("status", .str "error")]

/-- A text is one line that holds an object with those members. -/
def IsObjectLine (s : String) (members : List (String × Json)) : Prop :=
  Json.IsLine s ∧ Json.read? s = some (.obj members)

theorem Trouble.isSome_output?_iff (t : Trouble) : t.output?.isSome ↔ t.kind = "toolchain" := by
  cases t with
  | noDirectory => simp [output?, kind]
  | config e => simp [output?, kind]
  | command f => cases f <;> simp [output?, kind, Failure.output?, Failure.kind]

/-- There is output to report if and only if the toolchain was started and ended badly. -/
theorem Halts.isSome_output?_iff {command : Command} {w : World τ} {phase : Phase} {t : Trouble}
    (h : Halts command w phase t) : t.output?.isSome ↔ phase = .ending := by
  rw [t.isSome_output?_iff, h.kind]
  cases phase <;> decide

theorem Halts.kind_eq_config_iff {command : Command} {w : World τ} {phase : Phase} {t : Trouble}
    (h : Halts command w phase t) : t.kind = "config" ↔ phase = .configuration := by
  rw [h.kind]
  cases phase <;> decide

/-- The report of a failed run is one line, and its members are the documented ones, without the output if
there is no configuration. -/
theorem isObjectLine_reportOf_error (command : Command) (t : Trouble) :
    IsObjectLine (reportOf .json command (.error t))
      (if t.kind = "config" then (documentedMembers command t).filter fun m => m.1 != "output"
        else documentedMembers command t) := by
  cases t with
  | noDirectory => exact (exact_troubleJson command .noDirectory).toLine
  | config e => exact (exact_troubleJson command (.config e)).toLine
  | command f =>
    have hkind : (Trouble.command f).kind ≠ "config" := by
      cases f <;> simp [Trouble.kind, Failure.kind]
    rw [if_neg hkind]
    exact (Report.exact_failureJson command f).toLine

/-- A run that fails, fails at some stage. -/
theorem halts_of_exitCode_ne_zero {args : List String} {w : World τ} (h : (run args w).1.exitCode ≠ 0) :
    ∃ phase t, (perform (Command.parse (words args)) w).1 = .error t ∧
      Halts (Command.parse (words args)) w phase t := by
  rw [exitCode_run] at h
  have hlocal : ¬ (Command.parse (words args)).IsLocal := by
    intro hlocal
    obtain ⟨output, houtput⟩ := hlocal.exists_localOutput?
    rw [perform_of_localOutput? houtput] at h
    exact h rfl
  rcases perform_stages w hlocal with ⟨output, hresult, -⟩ | ⟨phase, t, hresult, hhalts, -⟩
  · rw [hresult] at h
    exact absurd rfl h
  · exact ⟨phase, t, hresult, hhalts⟩

/-- **What a failed run reports in JSON.** Whatever stage fails, and whatever the names and messages are,
standard output is one line with one object. If a configuration was found, its members are the documented
ones: the command, the stage, the message, the status `error`, and as output all that the toolchain printed if
the toolchain failed and `null` if no file or no start was to be had. If none was found, they are the
documented ones but for the output, which is missing. -/
theorem json_failure_members (args : List String) (w : World τ) (hjson : jsonFlag ∈ args)
    (hfail : (run args w).1.exitCode ≠ 0) :
    ∃ phase t, (perform (Command.parse (words args)) w).1 = .error t ∧
      Halts (Command.parse (words args)) w phase t ∧
      (t.output?.isSome ↔ phase = .ending) ∧
      (phase ≠ .configuration →
        IsObjectLine (run args w).1.stdout (documentedMembers (Command.parse (words args)) t)) ∧
      (phase = .configuration →
        IsObjectLine (run args w).1.stdout
          ((documentedMembers (Command.parse (words args)) t).filter fun m => m.1 != "output")) := by
  obtain ⟨phase, t, hresult, hhalts⟩ := halts_of_exitCode_ne_zero hfail
  have hformat : formatOf args = .json := if_pos (List.contains_iff_mem.2 hjson)
  have hline := isObjectLine_reportOf_error (Command.parse (words args)) t
  rw [stdout_run, hformat, hresult]
  refine ⟨phase, t, rfl, hhalts, hhalts.isSome_output?_iff, ?_, ?_⟩
  · intro hphase
    rwa [if_neg (mt hhalts.kind_eq_config_iff.1 hphase)] at hline
  · intro hphase
    rwa [if_pos (hhalts.kind_eq_config_iff.2 hphase)] at hline

end CommandLine

/-- The sample system, with a variable that asks for a toolchain without a name. -/
def Sample.nameless : World Unit :=
  { Sample.world with environment := ⟨[(Config.programVariable, [])]⟩ }

namespace CommandLine

/-- A toolchain that fails after it has printed something, and one without a name. -/
theorem sample_json_failure_members :
    IsObjectLine (run ["run", "--json"] Sample.world).1.stdout
      (documentedMembers .run (.command (.toolchain "go" (some 1) "no"))) ∧
    IsObjectLine (run ["run", "--json"] Sample.nameless).1.stdout
      ((documentedMembers .run (.config (.empty "toolchain.program"))).filter fun m =>
        m.1 != "output") := by
  have hended : (perform (Command.parse (words ["run", "--json"])) Sample.world).1 =
      .error (.command (.toolchain "go" (some 1) "no")) := by decide +kernel
  have hnameless : (perform (Command.parse (words ["run", "--json"])) Sample.nameless).1 =
      .error (.config (.empty "toolchain.program")) := by decide +kernel
  refine ⟨?_, ?_⟩
  · obtain ⟨phase, t, hresult, -, houtput, hdocumented, -⟩ :=
      json_failure_members ["run", "--json"] Sample.world (by decide) (by decide +kernel)
    obtain rfl := Except.error.inj (hended.symm.trans hresult)
    obtain rfl := houtput.1 rfl
    exact hdocumented (by decide)
  · obtain ⟨phase, t, hresult, hhalts, -, -, hmissing⟩ :=
      json_failure_members ["run", "--json"] Sample.nameless (by decide) (by decide +kernel)
    obtain rfl := Except.error.inj (hnameless.symm.trans hresult)
    exact hmissing (hhalts.kind_eq_config_iff.1 rfl)

/-- A toolchain without a name is a failure of the configuration, and its report has no output. -/
theorem unconfigured_failure_lacks_output :
    ¬ ∀ (args : List String) (w : World Unit), jsonFlag ∈ args → (run args w).1.exitCode ≠ 0 →
      ∃ value, Json.read? (run args w).1.stdout = some value ∧
        ∀ key ∈ ["command", "status", "error", "message", "output"], value.field? key ≠ none := by
  intro hall
  obtain ⟨value, hread, hkeys⟩ := hall ["--json", "run"] Sample.nameless (by decide) (by decide +kernel)
  have hresult : (perform .run Sample.nameless).1 = .error (.config (.empty "toolchain.program")) := by
    decide +kernel
  have hstdout : (run ["--json", "run"] Sample.nameless).1.stdout =
      reportOf .json .run (.error (.config (.empty "toolchain.program"))) := by
    rw [stdout_run, ← hresult]
    rfl
  rw [hstdout, read?_reportOf] at hread
  obtain rfl := Option.some.inj hread
  exact hkeys "output" (by decide) rfl

end CommandLine

end Conductor
