import Conductor.Synthesis
import Conductor.World.Path

/-!
# Failures of a command

Every way in which a command that was dispatched can fail, one for each stage: no program text, no
scratch file, no start of the toolchain, and a toolchain that ended badly.
-/

namespace Conductor

inductive Failure where
  | synthesis (error : SynthesisError)
  /-- The scratch file at the path could not be created or written. -/
  | artifact (path : Path) (error : SystemError)
  /-- The toolchain could not be started, or it could not be learned what came of it. -/
  | spawn (program : String) (error : SystemError)
  /-- The toolchain ended with that code, or from a signal, after printing that output. -/
  | toolchain (program : String) (code : Option Int) (output : String)
  deriving DecidableEq, Repr

namespace Failure

/-- The name of the stage that failed. -/
def kind : Failure → String
  | .synthesis _ => "synthesis"
  | .artifact .. => "artifact"
  | .spawn .. => "spawn"
  | .toolchain .. => "toolchain"

def message : Failure → String
  | .synthesis e => e.message
  | .artifact path e =>
    "failed to create temporary source " ++ path.text ++ ": " ++ e.message
  | .spawn program e => "failed to run `" ++ program ++ "`: " ++ e.message
  | .toolchain program (some code) _ => "`" ++ program ++ "` exited with status " ++ code.repr
  | .toolchain program none _ => "`" ++ program ++ "` was terminated by a signal"

/-- What the toolchain printed, if it got that far. -/
def output? : Failure → Option String
  | .toolchain _ _ output => some output
  | _ => none

/-- The error of the operating system behind the failure. -/
def systemError? : Failure → Option SystemError
  | .artifact _ e => some e
  | .spawn _ e => some e
  | _ => none

end Failure

end Conductor
