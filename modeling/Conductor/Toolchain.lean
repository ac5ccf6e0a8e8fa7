import Conductor.Failure
import Conductor.Text.Quoted
import Conductor.World.Process

/-!
# Running the toolchain

The toolchain is started once and waited for. Everything that it prints is captured as one text. A run
that does not end with the exit code zero is a failure, which carries the text. If it cannot be learned what
came of the toolchain, because waiting for it or reading from it fails, that is reported like a start that
failed, and nothing of what was read is kept.
-/

namespace Conductor

namespace Toolchain

/-- What a successful run gave. -/
structure Outcome where
  output : String
  code : Int
  deriving DecidableEq, Repr

def target : String := "driver::toolchain"

/-! ## How a start is shown in the log -/

/-- Whether a text holds a NUL. -/
def hasNul (s : String) : Bool :=
  s.toList.contains '\x00'

/-- How an ASCII character stands in a quoted program name: a control without a name of its own is an
octet in hexadecimal, and a single quote is escaped too. -/
def escapeAscii (c : Char) : List Char :=
  if c = '\t' then ['\\', 't']
  else if c = '\n' then ['\\', 'n']
  else if c = '\r' then ['\\', 'r']
  else if c = '"' ∨ c = '\\' ∨ c = '\'' then ['\\', c]
  else if c.toNat < 0x20 ∨ c.toNat = 0x7F then
    ['\\', 'x', Nat.digitChar (c.toNat / 16), Nat.digitChar (c.toNat % 16)]
  else [c]

/-- What is shown in place of a text with a NUL, which cannot be handed over. -/
def withNul : String := "\"<string-with-nul>\""

/-- How the program is shown. -/
def showProgram (program : String) : String :=
  if hasNul program then withNul
  else
    let text := program.toList.flatMap fun c =>
      if c.toNat < 0x80 then escapeAscii c else Quoted.escape c
    String.ofList ('"' :: text ++ ['"'])

/-- How an argument is shown. -/
def showArgument (a : Bytes) : String :=
  if a.contains 0 then withNul else quoted (Utf8.decodeLossy a)

/-- The variables that are set for a start, in the order of their names, the last of equal names
winning. -/
def effective (vars : List (String × String)) : List (String × String) :=
  let names := (vars.map Prod.fst).eraseDups.mergeSort fun a b => decide (a ≤ b)
  names.filterMap fun name =>
    (vars.reverse.find? fun v => v.1 == name).map fun v => (name, v.2)

/-- A start as it is shown in the log: variables, program, arguments. -/
def showStart (program : String) (args : List Bytes) (vars : List (String × String)) :
    String :=
  joined "" ((effective vars).map fun (name, value) => name ++ "=" ++ quoted value ++ " ") ++
    joined " " (showProgram program :: args.map showArgument)

/-! ## Starting -/

/-- What is handed over to a program holds no NUL. -/
def isPassable (program : String) (args : List Bytes) (vars : List (String × String)) : Bool :=
  ! hasNul program && args.all (fun a => ! a.contains 0) &&
    vars.all fun (name, value) => ! hasNul name && ! hasNul value

/-- The program to start, or why there is none. The pipe for the output takes three open files, and the
empty input one more. -/
def resolve {τ : Type} (w : World τ) (program : String) (args : List Bytes)
    (vars : List (String × String)) : Except SystemError τ :=
  if ! isPassable program args vars then .error .nulInCommand
  else if ! w.canOpen 4 then .error .tooManyOpenFiles
  else w.findProgram (w.environment.setAll vars) program

/-- Runs the toolchain with arguments and with variables set for it. -/
def invoke {τ : Type} (program : String) (args : List Bytes) (vars : List (String × String))
    (w : World τ) : Except Failure Outcome × World τ :=
  if ! w.canOpen 3 then (.error (.spawn program .tooManyOpenFiles), w)
  else
    let w := w.log .debug target ("spawning " ++ showStart program args vars)
    match resolve w program args vars with
    | .error e => (.error (.spawn program e), w)
    | .ok p =>
      let (conduct, w) := w.perform p ⟨program, args, w.environment.setAll vars, w.cwd⟩
      match conduct.unlearned? with
      | some e => (.error (.spawn program e), w)
      | none =>
        let output := Utf8.decodeLossy conduct.output
        let w := w.log .debug target
          ("`" ++ program ++ "` finished with " ++ conduct.ending.text ++ " (" ++
            output.utf8ByteSize.repr ++ " bytes of output)")
        if conduct.ending = .exited 0 then (.ok ⟨output, 0⟩, w)
        else (.error (.toolchain program conduct.ending.code? output), w)

end Toolchain

end Conductor
