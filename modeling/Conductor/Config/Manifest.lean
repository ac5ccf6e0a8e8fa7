import Conductor.Config.Basic
import Conductor.Toml.Document

/-!
# Manifests

A manifest is a TOML document with two sections: the section on the toolchain names the program, and
the section on scratch files their directory. A section is a table, or an array with its one field;
everything else in the document is ignored. The sections are looked at in the order of the document,
and the first value of the wrong type is the fault.

A date or time, where a section is expected, passes for a table without any of the fields.
-/

namespace Conductor

namespace Toml

/-- What a TOML value is, for a message. -/
def Value.found : Value → Found
  | .string s => .string s
  | .integer n => .integer n
  | .float x => .float x
  | .boolean b => .boolean b
  | .datetime _ => .map
  | .array _ => .sequence
  | .table _ => .map

/-- A string; `expected` says what for. -/
def Value.asString (expected : String) : Value → Except Mismatch String
  | .string s => .ok s
  | v => .error (.type v.found expected)

/-- The value under a key of a table. -/
def lookup? (entries : List (String × Value)) (key : String) : Option Value :=
  (entries.find? fun e => e.1 == key).map Prod.snd

/-- The string under a key of a table, if the key is there. -/
def stringField? (entries : List (String × Value)) (key expected : String) :
    Except Mismatch (Option String) :=
  match lookup? entries key with
  | none => .ok none
  | some v => (v.asString expected).map some

end Toml

namespace Config

open Toml (Value)

/-- The program that the section on the toolchain names, if it names one. -/
def programOf? : Value → Except Mismatch (Option String)
  | .table entries => Toml.stringField? entries "program" "a string"
  | .datetime _ => .ok none
  | .array [] => .ok none
  | .array (v :: _) => (v.asString "a string").map some
  | v => .error (.type v.found "struct Toolchain")

/-- The directory that the section on scratch files names, if it names one. -/
def dirOf? : Value → Except Mismatch (Option String)
  | .table entries => Toml.stringField? entries "dir" "path string"
  | .datetime _ => .ok none
  | .array [] => .error (.length 0 "struct Scratch with 1 element")
  | .array (v :: _) => (v.asString "path string").map some
  | v => .error (.type v.found "struct Scratch")

/-- The configuration with what one entry of the document says. -/
def addEntry (c : Config) (entry : String × Value) : Except Mismatch Config :=
  if entry.1 = "toolchain" then
    (programOf? entry.2).map fun program => { c with program := program.getD defaultProgram }
  else if entry.1 = "scratch" then
    (dirOf? entry.2).map fun dir => { c with dir := dir }
  else .ok c

/-- The configuration of a document. -/
def ofEntries (entries : List (String × Value)) : Except Mismatch Config :=
  entries.foldlM addEntry default

/-- The configuration of a manifest text. -/
def load (text : String) : Except ManifestError Config :=
  match Toml.read? text with
  | none => .error .malformed
  | some entries =>
    match ofEntries entries with
    | .error m => .error (.shape m)
    | .ok c => .ok c

end Config

end Conductor
