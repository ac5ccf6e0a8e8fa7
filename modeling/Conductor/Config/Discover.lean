import Conductor.Config.Manifest
import Conductor.World.Basic

/-!
# Finding the configuration

The configuration of a directory is that of the manifest in it, if there is one, with the overrides of
the environment. It has to be valid.
-/

namespace Conductor

namespace Config

variable {τ : Type}

/-- The configuration of a manifest file. -/
def loadFile (w : World τ) (p : Path) : Except ConfigError Config :=
  match w.readFile p with
  | .error e => .error (.read p e)
  | .ok content =>
    match Utf8.decode? content with
    | none => .error (.read p .notText)
    | some text =>
      match load text with
      | .error e => .error (.parse p e (w.wording text))
      | .ok c => .ok c

/-- What the manifest of a directory says; without a manifest nothing is said. -/
def ofDirectory (w : World τ) (dir : Path) : Except ConfigError Config :=
  let p := Path.join dir manifestName
  if w.isFile p then loadFile w p else .ok default

/-- The valid configuration for a directory. -/
def discover (w : World τ) (dir : Path) : Except ConfigError Config :=
  match ofDirectory w dir with
  | .error e => .error e
  | .ok c => (c.override w.environment).validate

end Config

end Conductor
