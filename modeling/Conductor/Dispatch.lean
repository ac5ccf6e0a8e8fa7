import Conductor.Command
import Conductor.Config.Basic
import Conductor.Scratch
import Conductor.Toolchain

/-!
# Dispatching commands

A command that is not local goes through stages: program text is synthesized, put into a scratch file,
and handed to the toolchain. A failure at one stage ends the command; the scratch file is gone by then.
-/

namespace Conductor

/-- What commands are dispatched with. -/
structure Dispatcher where
  program : String
  scratchDir : Path
  synthesizer : Synthesizer

namespace Dispatcher

def target : String := "driver::command"

/-- The dispatcher of a configuration, in an environment that may name the directory for temporary
files. -/
def ofConfig (c : Config) (e : Environment) (synthesizer : Synthesizer) : Dispatcher :=
  ⟨c.program, c.scratchDir e, synthesizer⟩

/-- The arguments of a build, before the name of the source. -/
def buildFlags : List String :=
  ["build", "-ldflags=-s -w", "-trimpath", "-o", artifactName]

/-- Synthesizes program text for a mode and hands it to the toolchain as the last argument. -/
def compile {τ : Type} (d : Dispatcher) (mode : Mode) (flags : List String)
    (vars : List (String × String)) (w : World τ) : Except Failure String × World τ :=
  let w := w.record (.synthesized mode none)
  match d.synthesizer mode none with
  | .error e => (.error (.synthesis e), w)
  | .ok source =>
    w.withScratch d.scratchDir source.bytes fun path w =>
      match Toolchain.invoke d.program (flags.map Utf8.encode ++ [path]) vars w with
      | (.error f, w) => (.error f, w)
      | (.ok outcome, w) => (.ok outcome.output, w)

/-- Runs a command. The result is the text to print. -/
def dispatch {τ : Type} (d : Dispatcher) (command : Command) (w : World τ) :
    Except Failure String × World τ :=
  let w := w.log .info target ("dispatching `" ++ command.name ++ "`")
  match command with
  | .build t =>
    match d.compile .normal buildFlags t.settings w with
    | (.error f, w) => (.error f, w)
    | (.ok _, w) => (.ok "", w)
  | .run => d.compile .normal ["run"] [] w
  | .test => d.compile .test ["run"] [] w
  | .goVersion =>
    match Toolchain.invoke d.program [Utf8.encode "version"] [] w with
    | (.error f, w) => (.error f, w)
    | (.ok outcome, w) => (.ok outcome.output, w)
  | .repl _ | .version | .help => (.ok (command.localOutput?.getD ""), w)

end Dispatcher

end Conductor
