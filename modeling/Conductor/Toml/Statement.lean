import Conductor.Toml.Scalar
import Conductor.Toml.Tree

/-!
# Statements

A TOML document is a sequence of lines: headers, and keys with their values. A value may hold others, in
arrays and inline tables, up to a depth below 80; a key has fewer than 80 parts.
-/

namespace Conductor.Toml

/-- Arrays and inline tables nest at most that deep, and a key has at most that many parts. -/
def depthLimit : Nat := 79

/-! ## Keys -/

def isBareChar (c : Char) : Bool :=
  c.isAlphanum || c == '_' || c == '-'

/-- One part of a key: bare, or a string on one line. -/
def keyPart? (s : List Char) : Option (String × List Char) :=
  match s with
  | '"' :: s => basic? [] s
  | '\'' :: s => literal? [] s
  | s =>
    match s.span isBareChar with
    | ([], _) => none
    | (part, s) => some (String.ofList part, s)

/-- The parts of a key, of which there are at most that many, with blanks around them. -/
def keyParts? : Nat → List Char → Option (List String × List Char)
  | 0, _ => none
  | limit + 1, s =>
    match keyPart? (skipSpace s) with
    | none => none
    | some (part, s) =>
      match skipSpace s with
      | '.' :: s => (keyParts? limit s).map fun (parts, s) => (part :: parts, s)
      | s => some ([part], s)

/-- A key of one or more parts. -/
structure Key where
  parents : List String
  last : String
  deriving DecidableEq, Repr

def Key.path (k : Key) : List String :=
  k.parents ++ [k.last]

/-- The key at the front of a text, with the blanks around it. -/
def key? (s : List Char) : Option (Key × List Char) :=
  match keyParts? depthLimit s with
  | none => none
  | some (parts, s) => parts.getLast?.map fun last => (⟨parts.dropLast, last⟩, s)

/-! ## Arrays and inline tables -/

/-- A reader of a value at the front of a text. -/
abbrev Reader := List Char → Option (Value × List Char)

/-- The text after blanks, line endings and comments; a comment ends with its line. -/
def skipTrivia (inComment : Bool) : List Char → Option (List Char)
  | [] => if inComment then none else some []
  | '\r' :: '\n' :: s => skipTrivia false s
  | c :: s =>
    if c = '\n' then skipTrivia false s
    else if inComment then if isTextChar c then skipTrivia true s else none
    else if isSpace c then skipTrivia false s
    else if c = '#' then skipTrivia true s
    else some (c :: s)

/-- The items of an array up to the closing bracket. Blanks, line endings and comments may stand
anywhere, and a comma may follow the last item. -/
def items? (value : Reader) : Nat → List Char → Option (List Value × List Char)
  | 0, _ => none
  | fuel + 1, s =>
    match skipTrivia false s with
    | none => none
    | some (']' :: s) => some ([], s)
    | some s =>
      match value s with
      | none => none
      | some (v, s) =>
        match skipTrivia false s with
        | some (',' :: s) => (items? value fuel s).map fun (vs, s) => (v :: vs, s)
        | some (']' :: s) => some ([v], s)
        | _ => none

/-- A key, an equals sign and a value, with the blanks around them. -/
def pair? (value : Reader) (s : List Char) : Option ((Key × Value) × List Char) :=
  match key? s with
  | some (key, '=' :: s) =>
    match value (skipSpace s) with
    | some (v, s) => some ((key, v), skipSpace s)
    | none => none
  | _ => none

/-- The pairs of an inline table, at least one, up to the closing brace. -/
def pairs? (value : Reader) : Nat → List Char → Option (List (Key × Value) × List Char)
  | 0, _ => none
  | fuel + 1, s =>
    match pair? value s with
    | some (p, ',' :: s) => (pairs? value fuel s).map fun (ps, s) => (p :: ps, s)
    | some (p, '\x7d' :: s) => some ([p], s)
    | _ => none

/-- The table of the pairs in an inline table. -/
def inlineTable? (pairs : List (Key × Value)) : Option Value :=
  let add (es : Entries) (p : Key × Value) := es.assign p.1.parents p.1.last p.2 .header
  (pairs.foldlM add []).map fun es => .table (sealEntries es)

/-- The value at the front of a text, with arrays and inline tables nested at most that deep. -/
def value? : Nat → Reader
  | 0, s => match s with
    | '[' :: _ => none
    | '\x7b' :: _ => none
    | s => scalar? s
  | depth + 1, s =>
    match s with
    | '[' :: s => (items? (value? depth) (s.length + 1) s).map fun (vs, s) => (.array vs, s)
    | '\x7b' :: s =>
      match skipSpace s with
      | '\x7d' :: s => some (.table [], s)
      | s => do
        let (pairs, s) ← pairs? (value? depth) (s.length + 1) s
        let v ← inlineTable? pairs
        return (v, s)
    | s => scalar? s

/-! ## Lines -/

inductive Statement where
  /-- A header that opens a table. -/
  | table (key : Key)
  /-- A header that appends to an array of tables. -/
  | element (key : Key)
  /-- A key with its value. -/
  | pair (key : Key) (v : Value)

/-- The rest of a line: blanks, perhaps a comment, and the end of the line or of the text. -/
def lineEnd? (s : List Char) : Option (List Char) :=
  let s := match skipSpace s with
    | '#' :: s => s.dropWhile isTextChar
    | s => s
  match s with
  | [] => some []
  | s => newline? s

/-- The statement at the front of a text, up to the end of its line. -/
def statement? (s : List Char) : Option (Statement × List Char) :=
  match s with
  | '[' :: '[' :: s =>
    match key? s with
    | some (key, ']' :: ']' :: s) => (lineEnd? s).map fun s => (.element key, s)
    | _ => none
  | '[' :: s =>
    match key? s with
    | some (key, ']' :: s) => (lineEnd? s).map fun s => (.table key, s)
    | _ => none
  | s =>
    match pair? (value? depthLimit) s with
    | some ((key, v), s) => (lineEnd? s).map fun s => (.pair key v, s)
    | none => none

/-- The statements of a text. -/
def statements? : Nat → List Char → Option (List Statement)
  | 0, _ => none
  | fuel + 1, s =>
    match skipSpace s with
    | [] => some []
    | '#' :: s => (lineEnd? ('#' :: s)).bind (statements? fuel)
    | s =>
      match newline? s with
      | some s => statements? fuel s
      | none =>
        match statement? s with
        | some (st, s) => (statements? fuel s).map (st :: ·)
        | none => none

end Conductor.Toml
