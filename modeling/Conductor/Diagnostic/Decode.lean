import Conductor.Diagnostic.Basic
import Conductor.Json.Writer
import Conductor.Shape

/-!
# Diagnostics as JSON

A diagnostic is written as a JSON object with its fields in a fixed order, a span likewise. Both are
read from such an object, with the members in any order and unknown ones ignored, or from an array of
the fields in that fixed order.

Which of several faults is reported is part of the contract. In an object the members are looked at in
the order of their names, and the first bad value is the fault; a missing field counts only after that.
In an array it is the first bad item, then a missing item, then superfluous ones.
-/

namespace Conductor

namespace Json

/-- What a JSON value is, for a message. -/
def found : Json → Found
  | .null => .null
  | .bool b => .boolean b
  | .int n => .integer n
  | .float x => .float x
  | .str s => .string s
  | .arr _ => .sequence
  | .obj _ => .map

/-! ## Decoding by layers -/

/-- A decoder of JSON values. -/
abbrev Decoder (α : Type) := Json → Except Mismatch α

def decodeString : Decoder String
  | .str s => .ok s
  | v => .error (.type v.found "a string")

/-- `null` is nothing, and everything else is decoded. -/
def decodeOption {α : Type} (f : Decoder α) : Decoder (Option α)
  | .null => .ok none
  | v => (f v).map some

/-- The values of an array, the first bad one being the fault. -/
def decodeItems {α : Type} (f : Decoder α) : List Json → Except Mismatch (List α)
  | [] => .ok []
  | v :: vs => do
    let x ← f v
    let xs ← decodeItems f vs
    return x :: xs

def decodeList {α : Type} (f : Decoder α) : Decoder (List α)
  | .arr items => decodeItems f items
  | v => .error (.type v.found "a sequence")

/-- An integer that fits into 64 bits without a sign. -/
def decodeUnsigned : Decoder UInt64
  | .int n =>
    if n < 0 then .error (.value (.integer n) "usize")
    else if n < UInt64.size then .ok (UInt64.ofNat n.toNat)
    else .error (.value (.integer n) "usize")
  | v => .error (.type v.found "usize")

/-- The value of a member, decoded if the member is there. -/
def decodeMember {α : Type} (members : List (String × Json)) (name : String) (f : Decoder α) :
    Except Mismatch (Option α) :=
  match member? members name with
  | none => .ok none
  | some v => (f v).map some

/-- A field that has to be there. -/
def required {α : Type} (name : String) : Option α → Except Mismatch α
  | none => .error (.missing name)
  | some x => .ok x

/-- The item at a place of an array, decoded; `whole` says what the array should have been. -/
def decodeItem {α : Type} (items : List Json) (i : Nat) (whole : String) (f : Decoder α) :
    Except Mismatch α :=
  match items[i]? with
  | none => .error (.length i whole)
  | some v => f v

/-- An array of all its fields has no more than that number of items. -/
def noMoreThan (n : Nat) (items : List Json) : Except Mismatch Unit :=
  if items.length ≤ n then .ok () else .error (.length items.length "fewer elements in array")

end Json

/-! ## Severity -/

namespace Severity

def toJson (s : Severity) : Json :=
  .str s.name

/-- The names that a severity can have. -/
def names : List String :=
  all.map name

def ofJsonName (s : String) : Except Mismatch Severity :=
  match ofName? s with
  | some severity => .ok severity
  | none => .error (.variant s names)

/-- A severity is its name, or an object with that name as its only member, which is `null`. -/
def ofJson : Json.Decoder Severity
  | .str s => ofJsonName s
  | .obj members =>
    match (members.map Prod.fst).eraseDups with
    | [name] => do
      let severity ← ofJsonName name
      match Json.member? members name with
      | some .null => return severity
      | some v => .error (.type v.found "unit")
      | none => return severity
    | _ => .error (.value .map "map with a single key")
  | v => .error (.type v.found "string or map")

end Severity

/-! ## Spans -/

namespace Span

def toJson (s : Span) : Json :=
  .obj [("start_line", .int s.startLine.toNat), ("start_col", .int s.startCol.toNat),
    ("end_line", .int s.endLine.toNat), ("end_col", .int s.endCol.toNat)]

def ofMembers (ms : List (String × Json)) : Except Mismatch Span := do
  let endCol ← Json.decodeMember ms "end_col" Json.decodeUnsigned
  let endLine ← Json.decodeMember ms "end_line" Json.decodeUnsigned
  let startCol ← Json.decodeMember ms "start_col" Json.decodeUnsigned
  let startLine ← Json.decodeMember ms "start_line" Json.decodeUnsigned
  let startLine ← Json.required "start_line" startLine
  let startCol ← Json.required "start_col" startCol
  let endLine ← Json.required "end_line" endLine
  let endCol ← Json.required "end_col" endCol
  return ⟨startLine, startCol, endLine, endCol⟩

def ofItems (items : List Json) : Except Mismatch Span := do
  let whole := "struct Span with 4 elements"
  let startLine ← Json.decodeItem items 0 whole Json.decodeUnsigned
  let startCol ← Json.decodeItem items 1 whole Json.decodeUnsigned
  let endLine ← Json.decodeItem items 2 whole Json.decodeUnsigned
  let endCol ← Json.decodeItem items 3 whole Json.decodeUnsigned
  Json.noMoreThan 4 items
  return ⟨startLine, startCol, endLine, endCol⟩

def ofJson : Json.Decoder Span
  | .obj members => ofMembers members
  | .arr items => ofItems items
  | v => .error (.type v.found "struct Span")

end Span

/-! ## Diagnostics -/

namespace Diagnostic

def toJson (d : Diagnostic) : Json :=
  .obj [("severity", d.severity.toJson), ("message", .str d.message), ("help", Json.optStr d.help),
    ("span", match d.span with
      | none => .null
      | some s => s.toJson),
    ("path", Json.optStr d.path), ("notes", .arr (d.notes.map .str))]

/-- The diagnostic as JSON text. -/
def toJsonText (d : Diagnostic) : String :=
  d.toJson.toText

def ofMembers (ms : List (String × Json)) : Except Mismatch Diagnostic := do
  let help ← Json.decodeMember ms "help" (Json.decodeOption Json.decodeString)
  let message ← Json.decodeMember ms "message" Json.decodeString
  let notes ← Json.decodeMember ms "notes" (Json.decodeList Json.decodeString)
  let path ← Json.decodeMember ms "path" (Json.decodeOption Json.decodeString)
  let severity ← Json.decodeMember ms "severity" Severity.ofJson
  let span ← Json.decodeMember ms "span" (Json.decodeOption Span.ofJson)
  let severity ← Json.required "severity" severity
  let message ← Json.required "message" message
  return ⟨severity, message, help.join, span.join, path.join, notes.getD []⟩

def ofItems (items : List Json) : Except Mismatch Diagnostic := do
  let whole := "struct Diagnostic with 6 elements"
  let severity ← Json.decodeItem items 0 whole Severity.ofJson
  let message ← Json.decodeItem items 1 whole Json.decodeString
  let help ← Json.decodeItem items 2 whole (Json.decodeOption Json.decodeString)
  let span ← Json.decodeItem items 3 whole (Json.decodeOption Span.ofJson)
  let path ← Json.decodeItem items 4 whole (Json.decodeOption Json.decodeString)
  let notes ←
    if items.length ≤ 5 then pure []
    else Json.decodeItem items 5 whole (Json.decodeList Json.decodeString)
  Json.noMoreThan 6 items
  return ⟨severity, message, help, span, path, notes⟩

def ofJson : Json.Decoder Diagnostic
  | .obj members => ofMembers members
  | .arr items => ofItems items
  | v => .error (.type v.found "struct Diagnostic")

end Diagnostic

end Conductor
