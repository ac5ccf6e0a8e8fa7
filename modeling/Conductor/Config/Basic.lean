import Conductor.Shape
import Conductor.Text.Blank
import Conductor.Toml.Value
import Conductor.World.Environment
import Conductor.World.Path

/-!
# Configuration

Which toolchain to start, and in which directory to put scratch files. Both can be set in a manifest
and overridden by environment variables; an override that is not text is ignored. A configuration is
valid when the program is not blank and the directory, if there is one, is not empty.
-/

namespace Conductor

structure Config where
  program : String
  dir : Option String
  deriving DecidableEq, Repr

namespace Config

/-- The name of the manifest in the working directory. -/
def manifestName : String := "moa.toml"

def defaultProgram : String := "go"

def default : Config := ⟨defaultProgram, none⟩

instance : Inhabited Config := ⟨default⟩

def programVariable : String := "MOA_TOOLCHAIN"
def dirVariable : String := "MOA_SCRATCH_DIR"
def temporaryVariable : String := "TMPDIR"

/-- The configuration with the overrides of the environment. -/
def override (c : Config) (e : Environment) : Config where
  program := (e.text? programVariable).getD c.program
  dir := (e.text? dirVariable).or c.dir

/-- The directory of the system for temporary files. -/
def temporaryDir (e : Environment) : Path :=
  (e.get? temporaryVariable).getD (Utf8.encode "/tmp")

/-- The directory that scratch files go to: the configured one, or that of the system. -/
def scratchDir (c : Config) (e : Environment) : Path :=
  match c.dir with
  | some dir => Utf8.encode dir
  | none => temporaryDir e

end Config

/-! ## Errors -/

/-- Why a manifest text is not a configuration. -/
inductive ManifestError where
  /-- It is not TOML. -/
  | malformed
  /-- It is TOML of the wrong shape. -/
  | shape (mismatch : Mismatch)
  deriving DecidableEq, Repr

/-- Why there is no configuration. -/
inductive ConfigError where
  /-- The manifest could not be read. -/
  | read (path : Path) (error : SystemError)
  /-- The manifest does not make a configuration, in the words of its reader. -/
  | parse (path : Path) (error : ManifestError) (words : String)
  /-- The value of that key is empty. -/
  | empty (key : String)
  deriving DecidableEq, Repr

namespace ConfigError

def message : ConfigError → String
  | .read path _ => "failed reading " ++ path.text
  | .parse path _ _ => "invalid " ++ path.text
  | .empty key => key ++ " cannot be empty"

/-- What lies behind the error. -/
def cause? : ConfigError → Option String
  | .read _ e => some e.message
  | .parse _ _ words => some words
  | .empty _ => none

/-- The message with what lies behind it. -/
def fullMessage (e : ConfigError) : String :=
  match e.cause? with
  | some cause => e.message ++ ": " ++ cause
  | none => e.message

end ConfigError

namespace Config

/-- What keeps a configuration from being valid. -/
def fault? (c : Config) : Option ConfigError :=
  if isBlank c.program then some (.empty "toolchain.program")
  else if c.dir = some "" then some (.empty "scratch.dir")
  else none

/-- The configuration, if it is valid. -/
def validate (c : Config) : Except ConfigError Config :=
  match c.fault? with
  | some e => .error e
  | none => .ok c

end Config

end Conductor
