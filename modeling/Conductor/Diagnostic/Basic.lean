import Conductor.Text.Pieces

/-!
# Diagnostics

A diagnostic is a finding against source text: how severe it is, what it says, and optionally a hint,
a range of the text, a file and further notes. It is built step by step from a severity and a message,
and it is shown as a few lines of text.
-/

namespace Conductor

/-- How severe a finding is. -/
inductive Severity where
  | error
  | warning
  | note
  deriving DecidableEq, Repr, Inhabited

namespace Severity

def name : Severity → String
  | .error => "error"
  | .warning => "warning"
  | .note => "note"

def all : List Severity := [.error, .warning, .note]

def ofName? (s : String) : Option Severity :=
  all.find? fun severity => severity.name == s

end Severity

/-- A range of a source text, in lines and columns that count from one. -/
structure Span where
  startLine : UInt64
  startCol : UInt64
  endLine : UInt64
  endCol : UInt64
  deriving DecidableEq, Repr

/-- A finding against source text. -/
structure Diagnostic where
  severity : Severity
  message : String
  help : Option String
  span : Option Span
  path : Option String
  notes : List String
  deriving DecidableEq, Repr

namespace Diagnostic

/-! ## Building -/

def new (severity : Severity) (message : String) (help : Option String) : Diagnostic where
  severity := severity
  message := message
  help := help
  span := none
  path := none
  notes := []

def error (message : String) : Diagnostic :=
  new .error message none

def withSpan (d : Diagnostic) (span : Span) : Diagnostic :=
  { d with span := some span }

def withPath (d : Diagnostic) (path : String) : Diagnostic :=
  { d with path := some path }

def withNote (d : Diagnostic) (note : String) : Diagnostic :=
  { d with notes := d.notes ++ [note] }

/-- One step in the making of a diagnostic. The first two begin a new one. -/
inductive Step where
  | error (message : String)
  | new (severity : Severity) (message : String) (help : Option String)
  | span (span : Span)
  | path (path : String)
  | note (note : String)
  deriving DecidableEq, Repr

def Step.apply (d : Diagnostic) : Step → Diagnostic
  | .error m => Diagnostic.error m
  | .new s m h => Diagnostic.new s m h
  | .span s => d.withSpan s
  | .path p => d.withPath p
  | .note n => d.withNote n

/-- The diagnostic that a sequence of steps makes of the empty error. -/
def build (steps : List Step) : Diagnostic :=
  steps.foldl Step.apply (error "")

/-! ## Showing -/

/-- Where the finding is: the file, with the start of the range if there is one, or that start alone. -/
def location? (d : Diagnostic) : Option String :=
  match d.path, d.span with
  | some path, some span =>
    some (path ++ ":" ++ span.startLine.toNat.repr ++ ":" ++ span.startCol.toNat.repr)
  | some path, none => some path
  | none, some span => some (span.startLine.toNat.repr ++ ":" ++ span.startCol.toNat.repr)
  | none, none => none

/-- The lines of the text: the finding, its location, the hint and the notes. -/
def lines (d : Diagnostic) : List String :=
  (d.severity.name ++ ": " ++ d.message) ::
    (d.location?.toList.map (" --> " ++ ·) ++
      d.help.toList.map ("  = help: " ++ ·) ++
      d.notes.map ("  = note: " ++ ·))

/-- The diagnostic as text, without a final newline. -/
def toText (d : Diagnostic) : String :=
  joined "\n" d.lines

end Diagnostic

end Conductor
