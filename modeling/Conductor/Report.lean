import Conductor.Command
import Conductor.Failure
import Conductor.Json.Writer

/-!
# Reports

What a command prints on standard output when it is done, as plain text or as one line of JSON. The
members of the JSON object stand in the order of their names.
-/

namespace Conductor

/-- How results are printed. -/
inductive Format where
  | text
  | json
  deriving DecidableEq, Repr

namespace Report

/-- The text with a newline at its end. -/
def endLine (s : String) : String :=
  if s.toList.getLast? = some '\n' then s else s ++ "\n"

/-- The JSON value of a success; a build names the file it leaves behind. -/
def successJson (command : Command) (output : String) : Json :=
  let artifact := match command with
    | .build _ => [("artifact", Json.str artifactName)]
    | _ => []
  .obj (artifact ++
    [("command", .str command.name), ("output", .str output), ("status", .str "ok")])

/-- The JSON value of a failure. -/
def failureJson (command : Command) (failure : Failure) : Json :=
  .obj [("command", .str command.name), ("error", .str failure.kind),
    ("message", .str failure.message), ("output", Json.optStr failure.output?),
    ("status", .str "error")]

/-- The report of a command that succeeded with that output. -/
def success (format : Format) (command : Command) (output : String) : String :=
  match format with
  | .text => output
  | .json => (successJson command output).toLine

/-- The report of a command that failed. As text it is what the toolchain printed, on lines of its own;
the message goes elsewhere. -/
def failure (format : Format) (command : Command) (failure : Failure) : String :=
  match format with
  | .text =>
    match failure.output? with
    | some output => if output.isEmpty then "" else endLine output
    | none => ""
  | .json => (failureJson command failure).toLine

end Report

end Conductor
