import Conductor.Config.Discover
import Conductor.Dispatch
import Conductor.Report
import Conductor.Text.Terminal

/-!
# The command line

A run of the program: flags are taken out of the arguments, the rest is the command. A local command
prints its output; every other one finds the configuration and is dispatched. A failure is reported on
standard output and, in text mode, on standard error, and the exit code tells one from the other.
-/

namespace Conductor

namespace CommandLine

def jsonFlag : String := "--json"
def verboseFlag : String := "--verbose"

/-- How results are to be printed. -/
def formatOf (args : List String) : Format :=
  if args.contains jsonFlag then .json else .text

/-- The arguments without the flags. -/
def words (args : List String) : List String :=
  args.filter fun a => a != jsonFlag && a != verboseFlag

/-- Why a run failed. -/
inductive Trouble where
  /-- The working directory does not exist any longer. -/
  | noDirectory
  /-- There is no configuration. -/
  | config (error : ConfigError)
  /-- The command failed. -/
  | command (failure : Failure)
  deriving DecidableEq, Repr

def Trouble.message : Trouble → String
  | .noDirectory => "failed to resolve working directory: " ++ SystemError.notFound.message
  | .config e => "failed to load configuration: " ++ e.fullMessage
  | .command f => f.message

/-- A line on standard error. -/
inductive Line where
  /-- A part of the log specification that was not understood. -/
  | fault (part : String)
  | record (r : Log.Record)
  | trouble (message : String)
  deriving DecidableEq, Repr

/-- How a line is printed. Log records come without terminal control, even if that takes out the end of
their line. -/
def Line.text (stamp : String) : Line → String
  | .fault part => "warning: invalid logging spec '" ++ part ++ "', ignoring it\n"
  | .record r => Terminal.plain (r.line stamp ++ "\n")
  | .trouble message => "error: " ++ message ++ "\n"

/-- What a run leaves: its exit code and what it printed. -/
structure Completion where
  exitCode : Nat
  stdout : String
  stderr : List Line
  deriving DecidableEq, Repr

def Completion.stderrText (stamp : String) (c : Completion) : String :=
  joined "" (c.stderr.map (Line.text stamp))

variable {τ : Type}

/-- Runs a command: the output, or why there is none. -/
def perform (command : Command) (w : World τ) : Except Trouble String × World τ :=
  match command.localOutput? with
  | some output => (.ok output, w)
  | none =>
    match w.currentDir? with
    | none => (.error .noDirectory, w)
    | some dir =>
      match Config.discover w dir with
      | .error e => (.error (.config e), w)
      | .ok c =>
        let w := w.log .debug "moa"
          ("toolchain=" ++ c.program ++ " scratch_dir=" ++ Path.text (c.scratchDir w.environment))
        let d := Dispatcher.ofConfig c w.environment .template
        match d.dispatch command w with
        | (.error f, w) => (.error (.command f), w)
        | (.ok output, w) => (.ok output, w)

/-- The JSON value of a run without configuration. -/
def troubleJson (command : Command) (t : Trouble) : Json :=
  .obj [("command", .str command.name), ("error", .str "config"), ("message", .str t.message),
    ("status", .str "error")]

/-- What a failed run prints on standard output. -/
def reportTrouble (format : Format) (command : Command) : Trouble → String
  | .command f => Report.failure format command f
  | t =>
    match format with
    | .text => ""
    | .json => (troubleJson command t).toLine

/-- A run of the program. -/
def run (args : List String) (w : World τ) : Completion × World τ :=
  let format := formatOf args
  let filter := Log.Filter.ofProcess w.environment (args.contains verboseFlag)
  let command := Command.parse (words args)
  let seen := w.trace.length
  let (result, w) := perform command w
  let records := (World.records (w.trace.drop seen)).filter filter.shows
  let lines := filter.faults.map Line.fault ++ records.map Line.record
  match result with
  | .ok output => (⟨0, Report.success format command output, lines⟩, w)
  | .error t =>
    let complaint := if format = .text then [Line.trouble t.message] else []
    (⟨1, reportTrouble format command t, lines ++ complaint⟩, w)

end CommandLine

end Conductor
