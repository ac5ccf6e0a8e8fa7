/-!
# Text without terminal control

A terminal takes some characters for commands: the controls, and the sequences that begin with the
escape character. `plain` takes them out of a text that is not written to a terminal. Four kinds of
sequence are known by the character behind the escape: a control sequence (`[`), a device control
string (`P`), a system command (`]`) and a string without meaning (`X`, `^` or `_`); everything else is
a short escape. A `Stage` says how far a sequence has come.

Tab, line feed, form feed and carriage return lay out text and are obeyed in the middle of a short escape
or a control sequence. What follows them then shows as well, up to the next control; there the unfinished
sequence goes on, unless a character beyond ASCII has made an end of it.
-/

namespace Conductor

namespace Terminal

/-- How far a sequence has come. -/
inductive Stage where
  /-- There is none. -/
  | text
  /-- Behind the escape character. -/
  | escape
  /-- In a short escape of more than one character. -/
  | short
  /-- In a control sequence. -/
  | control
  /-- In a device control string, before its parameters. -/
  | device
  /-- Among the parameters of a device control string. -/
  | parameters
  /-- Behind the parameters of a device control string. -/
  | intermediates
  /-- In what a device control string or a string without meaning holds. -/
  | hidden
  /-- In a system command. -/
  | system
  deriving DecidableEq, Repr

/-- Whether the code of a character is between two bounds, ends included. -/
def within (least greatest : Nat) (c : Char) : Bool :=
  least ≤ c.toNat && c.toNat ≤ greatest

namespace Stage

/-- The stage behind a character that does not show. Cancel and substitute end every sequence and the
escape character begins a new one. The content of a string also ends with an octet 9C, be it in the
middle of a character. -/
def next (s : Stage) (c : Char) : Stage :=
  if c = '\x18' ∨ c = '\x1a' then .text
  else if c = '\x1b' then .escape
  else match s with
    | .text => .text
    | .escape =>
      if within 0x20 0x2F c then .short
      else if c = '[' then .control
      else if c = 'P' then .device
      else if c = ']' then .system
      else if c = 'X' ∨ c = '^' ∨ c = '_' then .hidden
      else if within 0x30 0x7E c then .text
      else .escape
    | .short => if within 0x30 0x7E c then .text else .short
    | .control => if within 0x40 0x7E c then .text else .control
    | .device =>
      if within 0x20 0x2F c then .intermediates
      else if within 0x30 0x3F c then .parameters
      else if within 0x40 0x7E c then .hidden
      else .device
    | .parameters =>
      if within 0x20 0x2F c then .intermediates
      else if within 0x3C 0x7E c then .hidden
      else .parameters
    | .intermediates => if within 0x30 0x7E c then .hidden else .intermediates
    | .hidden => if (String.utf8EncodeChar c).contains 0x9C then .text else .hidden
    | .system => if c = '\x07' then .text else .system

/-- The stages in which the characters that lay out text are obeyed. -/
def obeysLayout : Stage → Bool
  | .text | .escape | .short | .control => true
  | _ => false

end Stage

/-- The controls that lay out text. -/
def isLayout (c : Char) : Bool :=
  c == '\t' || c == '\n' || c == '\x0c' || c == '\r'

/-- The characters that are no controls, or that lay out text. -/
def isText (c : Char) : Bool :=
  isLayout c || (0x20 ≤ c.toNat && c != '\x7f')

/-- A point in a text: the stage of the sequence, and whether the character before it shows. -/
structure Point where
  stage : Stage
  showing : Bool
  deriving DecidableEq, Repr

namespace Point

/-- Before the first character. -/
def start : Point := ⟨.text, false⟩

/-- Whether the character at a point shows. -/
def shows (p : Point) (c : Char) : Bool :=
  isText c && (p.showing || p.stage == .text || (p.stage.obeysLayout && isLayout c))

/-- The point behind a character. -/
def after (p : Point) (c : Char) : Point :=
  if p.showing && isText c then ⟨if c.toNat < 0x80 then p.stage else .text, true⟩
  else ⟨p.stage.next c, p.shows c⟩

/-- The characters that show, from a point on. -/
def plain (p : Point) : List Char → List Char
  | [] => []
  | c :: rest => if p.shows c then c :: plain (p.after c) rest else plain (p.after c) rest

end Point

/-- The text without what a terminal would take for commands. -/
def plain (s : String) : String :=
  String.ofList (Point.start.plain s.toList)

end Terminal

end Conductor
