import Conductor.CommandLine
import Conductor.Proofs.JsonText
import Conductor.Proofs.Lifetime

/-!
# What is reported

A report in JSON is one line from which everything that was reported can be read again
(`json_reports_read_back`). Hence the two formats can be compared: `formats_agree` sets a run that reports
as text beside the run with the same arguments and the flag for JSON, and says what can be told from the one
about the other.

A run does the same whatever the format is, and decides about the format when it is over. `run_eq` puts
it that way, and everything about the two formats follows from how one result is reported in both.
-/

namespace Conductor

variable {τ : Type}

/-- The value of a member of an object. -/
def Json.field? : Json → String → Option Json
  | .obj members, name => Json.member? members name
  | _, _ => none

/-! ## Reports of commands -/

namespace Report

theorem exact_successJson (command : Command) (output : String) :
    (successJson command output).Exact := by
  cases command <;> simp [successJson]

theorem exact_failureJson (command : Command) (failure : Failure) :
    (failureJson command failure).Exact := by
  cases h : failure.output? <;> simp [failureJson, Json.optStr, h]

end Report

/-- **A report in JSON is one line and loses nothing**, whatever characters are in the output, the names
and the messages. The object that is read from the line of a success has the name of the command, the
output as it was and the status, and the file that is left behind if and only if the command is a build. That
of a failure has the name of the command, the stage that failed, the message, the output of the toolchain if
it is the toolchain that failed and otherwise `null`, and the status. -/
theorem json_reports_read_back (command : Command) (output : String) (failure : Failure) :
    (Json.IsLine (Report.success .json command output) ∧
      Json.read? (Report.success .json command output) = some (.obj
        ((match command with
          | .build _ => [("artifact", .str "a.out")]
          | _ => []) ++
        [("command", .str command.name), ("output", .str output), ("status", .str "ok")]))) ∧
    (Json.IsLine (Report.failure .json command failure) ∧
      Json.read? (Report.failure .json command failure) = some (.obj
        [("command", .str command.name), ("error", .str failure.kind),
          ("message", .str failure.message),
          ("output", match failure with
            | .toolchain _ _ text => .str text
            | _ => .null),
          ("status", .str "error")])) := by
  refine ⟨?_, ?_⟩
  · have h := (Report.exact_successJson command output).toLine
    cases command with
    | build t => exact h
    | _ => exact h
  · have h := (Report.exact_failureJson command failure).toLine
    cases failure with
    | toolchain program code text => exact h
    | _ => exact h

namespace CommandLine

/-! ## A run and its report -/

/-- Whether a line on standard error comes from the log. -/
def Line.isLog : Line → Bool
  | .fault _ => true
  | .record _ => true
  | .trouble _ => false

/-- The exit code of a result. -/
def exitCodeOf : Except Trouble String → Nat
  | .ok _ => 0
  | .error _ => 1

/-- What a result prints on standard output. -/
def reportOf (format : Format) (command : Command) : Except Trouble String → String
  | .ok output => Report.success format command output
  | .error t => reportTrouble format command t

/-- What a result prints on standard error. -/
def complaintOf (format : Format) : Except Trouble String → List Line
  | .ok _ => []
  | .error t => if format = .text then [.trouble t.message] else []

/-- The lines of the log that a run with those arguments shows, between two worlds. -/
def logLines (args : List String) (w w' : World τ) : List Line :=
  let filter := Log.Filter.ofProcess w.environment (args.contains verboseFlag)
  filter.faults.map .fault ++ ((World.records (w.since w')).filter filter.shows).map .record

/-- A run is a command and the report of its result. -/
theorem run_eq (args : List String) (w : World τ) :
    run args w =
      let command := Command.parse (words args)
      let r := perform command w
      (⟨exitCodeOf r.1, reportOf (formatOf args) command r.1,
        logLines args w r.2 ++ complaintOf (formatOf args) r.1⟩, r.2) := by
  rcases h : perform (Command.parse (words args)) w with ⟨_ | output, w'⟩
  · simp only [run, h]
    rfl
  · simp only [run, h, complaintOf, List.append_nil]
    rfl

theorem isLog_of_mem_logLines {args : List String} {w w' : World τ} {line : Line}
    (h : line ∈ logLines args w w') : line.isLog = true := by
  simp only [logLines, List.mem_append, List.mem_map] at h
  rcases h with ⟨part, -, rfl⟩ | ⟨record, -, rfl⟩
  · rfl
  · rfl

theorem isLog_of_mem_complaintOf {format : Format} {result : Except Trouble String} {line : Line}
    (h : line ∈ complaintOf format result) : line.isLog = false := by
  cases result with
  | ok output => cases h
  | error t =>
    unfold complaintOf at h
    split_ifs at h with hformat
    · rw [List.mem_singleton.1 h]
      rfl
    · cases h

/-! ## The report in JSON -/

theorem exact_troubleJson (command : Command) (t : Trouble) : (troubleJson command t).Exact := by
  simp [troubleJson]

/-- The value that the report of a result in JSON is. -/
def valueOf (command : Command) : Except Trouble String → Json
  | .ok output => Report.successJson command output
  | .error (.command f) => Report.failureJson command f
  | .error t => troubleJson command t

/-- The value of a result can be read from its report. -/
theorem read?_reportOf (command : Command) (result : Except Trouble String) :
    Json.read? (reportOf .json command result) = some (valueOf command result) := by
  cases result with
  | ok output => exact (Report.exact_successJson command output).toLine.2
  | error t =>
    cases t with
    | command f => exact (Report.exact_failureJson command f).toLine.2
    | noDirectory => exact (exact_troubleJson command .noDirectory).toLine.2
    | config e => exact (exact_troubleJson command (.config e)).toLine.2

/-- The stage that is named for a trouble. -/
def Trouble.kind : Trouble → String
  | .noDirectory => "config"
  | .config _ => "config"
  | .command f => f.kind

theorem Trouble.eq_toolchain_of_kind {t : Trouble} (h : t.kind = "toolchain") :
    ∃ program code output, t = .command (.toolchain program code output) := by
  cases t with
  | noDirectory => simp [kind] at h
  | config e => simp [kind] at h
  | command f =>
    cases f with
    | toolchain program code output => exact ⟨program, code, output, rfl⟩
    | _ => simp [kind, Failure.kind] at h

theorem field?_valueOf_ok (command : Command) (output : String) :
    (valueOf command (.ok output)).field? "output" = some (.str output) ∧
    (valueOf command (.ok output)).field? "status" = some (.str "ok") := by
  cases command <;> exact ⟨rfl, rfl⟩

theorem field?_valueOf_error (command : Command) (t : Trouble) :
    (valueOf command (.error t)).field? "error" = some (.str t.kind) ∧
    (valueOf command (.error t)).field? "message" = some (.str t.message) ∧
    (valueOf command (.error t)).field? "status" = some (.str "error") := by
  cases t <;> exact ⟨rfl, rfl, rfl⟩

/-! ## The report as text -/

theorem joined_concat (xs : List String) (x : String) : joined "" (xs ++ [x]) = joined "" xs ++ x := by
  induction xs with
  | nil => simp [joined]
  | cons y ys ih =>
    cases ys with
    | nil => simp [joined]
    | cons z zs => simpa [joined, String.append_assoc] using ih

/-- A trouble that is told last stands at the end of what is printed. -/
theorem stderrText_of_trouble {c c' : Completion} {message : String}
    (h : c.stderr = c'.stderr ++ [.trouble message]) (stamp : String) :
    c.stderrText stamp = c'.stderrText stamp ++ ("error: " ++ message ++ "\n") := by
  rw [Completion.stderrText, h, List.map_append, List.map_cons, List.map_nil, joined_concat]
  rfl

/-- Only the toolchain leaves something to print. -/
theorem reportTrouble_text (command : Command) (t : Trouble) (h : t.kind ≠ "toolchain") :
    reportTrouble .text command t = "" := by
  cases t with
  | noDirectory => rfl
  | config e => rfl
  | command f =>
    cases f with
    | toolchain program code output => exact absurd rfl h
    | _ => rfl

/-- What the toolchain printed gets a newline if it is something and has none at its end. -/
theorem reportTrouble_text_toolchain (command : Command) (program : String) (code : Option Int)
    (output : String) :
    reportTrouble .text command (.command (.toolchain program code output)) =
      if output ≠ "" ∧ output.toList.getLast? ≠ some '\n' then output ++ "\n" else output := by
  simp only [reportTrouble, Report.failure, Failure.output?, Report.endLine, String.isEmpty_iff]
  by_cases hempty : output = ""
  · simp [hempty]
  · by_cases hlast : output.toList.getLast? = some '\n'
    · simp [hempty, hlast]
    · simp [hempty, hlast]

/-! ## The two formats side by side -/

/-- What a run that reports as text has in common with a run that reports in JSON, each with the world that
it leaves, if `value` is what the report in JSON says. -/
structure Agreement (text json : Completion × World τ) (value : Json) : Prop where
  exitCode : json.1.exitCode = text.1.exitCode
  /-- The same has happened, so the same programs were started, and the same files are left. -/
  world : json.2 = text.2
  read : Json.read? json.1.stdout = some value
  status : value.field? "status" = some (.str "ok") ↔ text.1.exitCode = 0
  success : text.1.exitCode = 0 → value.field? "output" = some (.str text.1.stdout)
  /-- What the toolchain printed before it failed ends with a newline as text, unless it is nothing. -/
  toolchain : text.1.exitCode ≠ 0 → value.field? "error" = some (.str "toolchain") →
    ∃ output, value.field? "output" = some (.str output) ∧
      text.1.stdout =
        if output ≠ "" ∧ output.toList.getLast? ≠ some '\n' then output ++ "\n" else output
  otherwise : text.1.exitCode ≠ 0 → value.field? "error" ≠ some (.str "toolchain") → text.1.stdout = ""
  /-- As text the message stands on standard error, after the same log. -/
  message : text.1.exitCode ≠ 0 → ∃ message, value.field? "message" = some (.str message) ∧
    ∀ stamp, text.1.stderrText stamp = json.1.stderrText stamp ++ ("error: " ++ message ++ "\n")
  log : ∀ line ∈ json.1.stderr, line.isLog = true

/-- The reports of one result in both formats, after the same log. -/
theorem agreement_reportOf (command : Command) (result : Except Trouble String) (lines : List Line)
    (h : ∀ line ∈ lines, line.isLog = true) (w : World τ) :
    Agreement (⟨exitCodeOf result, reportOf .text command result, lines ++ complaintOf .text result⟩, w)
      (⟨exitCodeOf result, reportOf .json command result, lines ++ complaintOf .json result⟩, w)
      (valueOf command result) := by
  cases result with
  | ok output =>
    obtain ⟨houtput, hstatus⟩ := field?_valueOf_ok command output
    exact {
      exitCode := rfl
      world := rfl
      read := read?_reportOf command (.ok output)
      status := iff_of_true hstatus rfl
      success := fun _ => houtput
      toolchain := fun hcode => absurd rfl hcode
      otherwise := fun hcode => absurd rfl hcode
      message := fun hcode => absurd rfl hcode
      log := by simpa [complaintOf] using h }
  | error t =>
    obtain ⟨herror, hmessage, hstatus⟩ := field?_valueOf_error command t
    have hfail : exitCodeOf (.error t) ≠ 0 := Nat.one_ne_zero
    exact {
      exitCode := rfl
      world := rfl
      read := read?_reportOf command (.error t)
      status := iff_of_false (by simp [hstatus]) hfail
      success := fun hcode => absurd hcode hfail
      toolchain := by
        intro _ hkind
        simp only [herror, Option.some.injEq, Json.str.injEq] at hkind
        obtain ⟨program, code, output, rfl⟩ := Trouble.eq_toolchain_of_kind hkind
        exact ⟨output, rfl, reportTrouble_text_toolchain command program code output⟩
      otherwise := by
        intro _ hkind
        exact reportTrouble_text command t fun hkind' => hkind (by rw [herror, hkind'])
      message := by
        intro _
        exact ⟨t.message, hmessage, stderrText_of_trouble (by simp [complaintOf])⟩
      log := by simpa [complaintOf] using h }

theorem words_insert_jsonFlag (front back : List String) :
    words (front ++ jsonFlag :: back) = words (front ++ back) := by
  simp [words, List.filter_append]

theorem contains_verboseFlag_insert_jsonFlag (front back : List String) :
    (front ++ jsonFlag :: back).contains verboseFlag = (front ++ back).contains verboseFlag := by
  have hne : verboseFlag ≠ jsonFlag := by decide
  simp [hne]

/-- **The two formats agree.** Take any arguments without the flag for JSON and add the flag somewhere:
from the same state of the system, both runs have the same exit code and leave the same world, and what
the one prints can be told from what the other prints, as `Agreement` says. -/
theorem formats_agree (front back : List String) (h : jsonFlag ∉ front ++ back) (w : World τ) :
    ∃ value, Agreement (run (front ++ back) w) (run (front ++ jsonFlag :: back) w) value := by
  have htext : formatOf (front ++ back) = .text := by
    rw [formatOf, if_neg (by simpa using h)]
  have hjson : formatOf (front ++ jsonFlag :: back) = .json := by
    simp [formatOf]
  have hlog : ∀ w', logLines (front ++ jsonFlag :: back) w w' = logLines (front ++ back) w w' := by
    intro w'
    rw [logLines, logLines, contains_verboseFlag_insert_jsonFlag]
  -- The command and what is done for it do not hang on the flag.
  rw [run_eq, run_eq, words_insert_jsonFlag, htext, hjson]
  simp only [hlog]
  exact ⟨_, agreement_reportOf _ _ _ (fun _ => isLog_of_mem_logLines) _⟩

/-- A program that fails without a newline after its last word, in a run that shows its log. -/
theorem sample_formats_agree :
    jsonFlag ∉ ["--verbose"] ++ ["run"] ∧
    (run ["--verbose", "run"] Sample.world).1.exitCode = 1 ∧
    (run ["--verbose", "run"] Sample.world).1.stdout = "no\n" ∧
    (run ["--verbose", "run"] Sample.world).1.stderr ≠ [] ∧
    ∃ value, Agreement (run ["--verbose", "run"] Sample.world)
      (run ["--verbose", "--json", "run"] Sample.world) value :=
  ⟨by decide, by decide +kernel, by decide +kernel, by decide +kernel,
    formats_agree ["--verbose"] ["run"] (by decide) Sample.world⟩

end CommandLine

end Conductor
