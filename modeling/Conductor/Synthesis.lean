import Conductor.Diagnostic.Basic
import Conductor.Text.Utf8

/-!
# Synthesis

A synthesizer makes the program text that the toolchain is handed, for a mode and, when there is one,
the text that the user wrote. It may refuse with a diagnostic. The synthesizer at hand, `template`, has
one fixed program for each mode and never refuses.
-/

namespace Conductor

/-- What the program is for: to be run, or to be tested. -/
inductive Mode where
  | normal
  | test
  deriving DecidableEq, Repr, Inhabited

namespace Mode

def name : Mode → String
  | .normal => "normal"
  | .test => "test"

/-- The mode of that name; everything else is the normal mode. -/
def ofName (s : String) : Mode :=
  if s = "test" then .test else .normal

end Mode

/-- Program text for the toolchain. -/
structure Source where
  mode : Mode
  text : String
  deriving DecidableEq, Repr

def Source.bytes (s : Source) : Bytes :=
  Utf8.encode s.text

/-- Why there is no program text. -/
inductive SynthesisError where
  | syntactic (diagnostic : Diagnostic)
  | semantic (diagnostic : Diagnostic)
  deriving DecidableEq, Repr

namespace SynthesisError

def diagnostic : SynthesisError → Diagnostic
  | .syntactic d => d
  | .semantic d => d

def message : SynthesisError → String
  | .syntactic d => "syntax error: " ++ d.toText
  | .semantic d => "semantic error: " ++ d.toText

end SynthesisError

/-- Makes program text for a mode and the text of the user, if there is one. -/
abbrev Synthesizer := Mode → Option String → Except SynthesisError Source

/-- The fixed program of a mode. -/
def Mode.program : Mode → String
  | .normal => "package main\nimport \"fmt\"\nfunc main() \x7b fmt.Println(\"hello\") \x7d"
  | .test =>
    "package main\nimport \"fmt\"\nfunc main() \x7b fmt.Println(\"" ++
      "...............................ok\") \x7d"

/-- The program text of a mode, which does not hang on anything else. -/
def Source.ofMode (mode : Mode) : Source :=
  ⟨mode, mode.program⟩

/-- The synthesizer of the fixed programs. -/
def Synthesizer.template : Synthesizer :=
  fun mode _ => .ok (Source.ofMode mode)

end Conductor
