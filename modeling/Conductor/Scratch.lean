import Conductor.Failure
import Conductor.World.Basic

/-!
# Scratch files

Program text is handed to the toolchain in a file of its own, which exists no longer than it is needed.
The name is made of the number of the process, the time and a counter, so no two names are alike. The
file is created anew, never opened, and it is removed in every case: after use, and also if it could
not be written in full.
-/

namespace Conductor

namespace Scratch

/-- The name of a scratch file. -/
def name (pid nanos : Nat) (counter : UInt64) : String :=
  "main-" ++ pid.repr ++ "-" ++ nanos.repr ++ "-" ++ counter.toNat.repr ++ ".go"

/-- The part of the program that the log records about scratch files come from. -/
def target : String := "driver::scratch"

/-- What came of writing a file: the octets that are in it, and why there are no more. -/
structure Writing where
  content : Bytes
  error : Option SystemError
  deriving DecidableEq, Repr

/-- Writing all of the octets, as far as the limit allows. -/
def Writing.ofLimit (limit : Option Nat) (content : Bytes) : Writing :=
  match limit with
  | none => ⟨content, none⟩
  | some n =>
    if content.length ≤ n then ⟨content, none⟩ else ⟨content.take n, some .fileTooLarge⟩

end Scratch

namespace World

variable {τ : Type}

/-- Draws a name that the process has not used before. The counter has 64 bits. -/
def drawName (w : World τ) : String × World τ :=
  (Scratch.name w.pid (w.clock w.drawn) (UInt64.ofNat (w.drawn + 1)), { w with drawn := w.drawn + 1 })

/-- Where a new file at a path would go. -/
def openNew (w : World τ) (p : Path) : Except SystemError Place := do
  Path.check p
  if w.canOpen 1 then w.files.vacancy w.cwd p else .error .tooManyOpenFiles

/-- Removes a scratch file. A failure is logged and changes nothing else. -/
def release (w : World τ) (p : Path) : World τ :=
  match w.files.remove w.cwd p with
  | .ok files =>
    ({ w with files := files }.record (.removed p)).log .debug Scratch.target
      ("removed scratch source " ++ p.text)
  | .error e =>
    (w.record (.notRemoved p e)).log .warn Scratch.target
      ("failed removing scratch source " ++ p.text ++ ": " ++ e.message)

/-- Creates a scratch file in a directory and writes it. If it cannot be written in full, it is removed
again. -/
def createScratchWith (w : World τ) (dir : Path) (writing : Scratch.Writing) :
    Except Failure Path × World τ :=
  let (name, w) := w.drawName
  let p := Path.join dir name
  match w.openNew p with
  | .error e => (.error (.artifact p e), w.record (.notCreated p e))
  | .ok place =>
    let w := { w with files := w.files.put place (.file writing.content .data) }.record (.created p)
    match writing.error with
    | some e => (.error (.artifact p e), w.release p)
    | none => (.ok p, w)

/-- Creates a scratch file in a directory that holds the given octets. -/
def createScratch (w : World τ) (dir : Path) (content : Bytes) : Except Failure Path × World τ :=
  match w.createScratchWith dir (.ofLimit w.sizeLimit content) with
  | (.error f, w) => (.error f, w)
  | (.ok p, w) =>
    (.ok p, w.log .debug Scratch.target
      ("created scratch source " ++ p.text ++ " (" ++ content.length.repr ++ " bytes)"))

/-- Does something with the path of a scratch file that holds the given octets. The file is removed
afterwards, whatever came of it. -/
def withScratch {α : Type} (w : World τ) (dir : Path) (content : Bytes)
    (body : Path → World τ → Except Failure α × World τ) : Except Failure α × World τ :=
  match w.createScratch dir content with
  | (.error f, w) => (.error f, w)
  | (.ok p, w) =>
    let (result, w) := body p w
    (result, w.release p)

end World

end Conductor
