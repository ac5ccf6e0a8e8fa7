import Conductor.Log
import Conductor.Synthesis
import Conductor.World.FileTree

/-!
# The world of a process

Everything that a run depends on and changes: the files, the environment, the clock, the limits of the
system, what programs do when they are started, and how the reader of manifests words its complaints. What
comes of a program is any function of how it is started and of the files, and it includes that the process
never learns of it, because waiting for the program or reading its output fails. Every operation is a
function of the world that returns a world, in which a trace lists what happened, in order.

Left out are signals to the process itself, memory that runs out, and standard streams of its own that
cannot be written. The arguments of the process are text; variables and paths are octets and need not be.
A program runs to its end before the process goes on, and what it leaves running behind it is not seen.
-/

namespace Conductor

/-- How a program is started. -/
structure Launch where
  /-- The name that the program was asked for by. -/
  program : String
  args : List Bytes
  environment : Environment
  cwd : Option Place

/-- The streams that a program writes to. -/
inductive Stream where
  | output
  | error
  deriving DecidableEq, Repr

/-- How a program ends. -/
inductive Ending where
  | exited (code : Int)
  | signalled (signal : Nat)
  deriving DecidableEq, Repr

/-- What comes of a program that is started: what it writes, how it ends, and the files as it leaves them;
and what keeps the process that started it from learning of it. -/
structure Conduct (τ : Type) where
  writes : List (Stream × Bytes)
  ending : Ending
  files : FileTree τ
  /-- Why the process cannot wait for the program. -/
  waitError : Option SystemError
  /-- Why the process cannot read all that the program writes. -/
  readError : Option SystemError

/-- What happened. -/
inductive Event (τ : Type) where
  | logged (record : Log.Record)
  | synthesized (mode : Mode) (userText : Option String)
  /-- A scratch file was created. -/
  | created (path : Path)
  /-- A scratch file could not be created. -/
  | notCreated (path : Path) (error : SystemError)
  /-- A scratch file was removed. -/
  | removed (path : Path)
  /-- A scratch file could not be removed. -/
  | notRemoved (path : Path) (error : SystemError)
  /-- A program was started among those files; `source` is the content of the one that its last argument
  names. -/
  | started (launch : Launch) (program : τ) (source : Option Bytes) (files : FileTree τ)
  | ended (ending : Ending)

/-- The world of a process. -/
structure World (τ : Type) where
  files : FileTree τ
  /-- The working directory, if it still exists. -/
  cwd : Option Place
  environment : Environment
  /-- What a program does when it is started. -/
  behave : τ → Launch → FileTree τ → Conduct τ
  /-- The words that the reader of manifests has for what is wrong with a text. -/
  wording : String → String
  /-- The number of the process. -/
  pid : Nat
  /-- The nanoseconds since the epoch that the clock shows at each reading. -/
  clock : Nat → Nat
  /-- How many scratch names the process has drawn. -/
  drawn : Nat
  /-- The greatest size to which the process can write a file. -/
  sizeLimit : Option Nat
  /-- How many more files the process can have open. -/
  openLimit : Option Nat
  /-- What happened so far. -/
  trace : List (Event τ)

namespace World

variable {τ : Type}

/-- The world after an event that changes nothing else. -/
def record (w : World τ) (e : Event τ) : World τ :=
  { w with trace := w.trace ++ [e] }

def log (w : World τ) (level : Log.Level) (target message : String) : World τ :=
  w.record (.logged ⟨level, target, message⟩)

/-- The log records of a trace. -/
def records (trace : List (Event τ)) : List Log.Record :=
  trace.filterMap fun
    | .logged r => some r
    | _ => none

/-- The path of the working directory. -/
def currentDir? (w : World τ) : Option Path :=
  w.cwd.map fun place =>
    if place = [] then [Path.slash] else place.flatMap (Path.slash :: ·)

/-- Whether that many more files can be open at once. -/
def canOpen (w : World τ) (n : Nat) : Bool :=
  match w.openLimit with
  | some limit => n ≤ limit
  | none => true

def isFile (w : World τ) (p : Path) : Bool :=
  w.files.isFile w.cwd p

def contentOf (w : World τ) (p : Path) : Except SystemError Bytes :=
  w.files.read w.cwd p

/-- Reads a file, which has to be opened for that. -/
def readFile (w : World τ) (p : Path) : Except SystemError Bytes := do
  Path.check p
  if w.canOpen 1 then w.files.readOpen w.cwd p else .error .tooManyOpenFiles

end World

end Conductor
