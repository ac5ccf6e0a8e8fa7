import Conductor.Decimal.Digits

/-!
# Strings in TOML text

The four forms of a string: basic and literal, on one line or on several. A basic string has escapes; a
literal one stands for itself. In the forms over several lines a newline right after the opening quotes
is dropped, every line ending counts as one line feed, and one or two quotes may stand inside, also
right before the closing ones.

A reader takes the text after the opening quotes and returns the string and what follows the closing
quotes. `acc` holds the characters read so far, last one first.
-/

namespace Conductor.Toml

/-- A character that may stand in strings and comments: a tab, or no control character. -/
def isTextChar (c : Char) : Bool :=
  c == '\t' || (0x20 ≤ c.toNat && c.toNat != 0x7F)

/-- Blanks within a line. -/
def isSpace (c : Char) : Bool :=
  c == ' ' || c == '\t'

/-- The text after the blanks at its front. -/
def skipSpace (s : List Char) : List Char :=
  s.dropWhile isSpace

/-- The text after the line ending at its front. -/
def newline? : List Char → Option (List Char)
  | '\n' :: rest => some rest
  | '\r' :: '\n' :: rest => some rest
  | _ => none

/-- The character with that number in base sixteen, if there is one. -/
def charOfHex? (ds : List Char) : Option Char := do
  let n ← Digits.hexToNat? ds
  if n.isValidChar then some (Char.ofNat n) else none

/-- The character that a letter names behind a backslash. -/
def named? (c : Char) : Option Char :=
  if c = '"' ∨ c = '\\' then some c
  else if c = 'b' then some '\x08'
  else if c = 'f' then some '\x0c'
  else if c = 'n' then some '\n'
  else if c = 'r' then some '\r'
  else if c = 't' then some '\t'
  else none

/-- The string that was collected, last character first. -/
def collected (acc : List Char) : String :=
  String.ofList acc.reverse

/-- The rest of a basic string on one line. -/
def basic? (acc : List Char) : List Char → Option (String × List Char)
  | [] => none
  | '"' :: rest => some (collected acc, rest)
  | '\\' :: 'u' :: a :: b :: c :: d :: rest =>
    match charOfHex? [a, b, c, d] with
    | some x => basic? (x :: acc) rest
    | none => none
  | '\\' :: 'U' :: a :: b :: c :: d :: e :: f :: g :: h :: rest =>
    match charOfHex? [a, b, c, d, e, f, g, h] with
    | some x => basic? (x :: acc) rest
    | none => none
  | '\\' :: c :: rest =>
    match named? c with
    | some x => basic? (x :: acc) rest
    | none => none
  | c :: rest => if isTextChar c && c != '\\' then basic? (c :: acc) rest else none

/-- The rest of a literal string on one line. -/
def literal? (acc : List Char) : List Char → Option (String × List Char)
  | [] => none
  | '\'' :: rest => some (collected acc, rest)
  | c :: rest => if isTextChar c then literal? (c :: acc) rest else none

/-- The rest of a basic string over several lines. With `trim` the text stands behind a backslash at the
end of a line, and blanks and line endings are passed over. -/
def basicLines? (trim : Bool) (acc : List Char) : List Char → Option (String × List Char)
  | [] => none
  | '"' :: '"' :: '"' :: '"' :: '"' :: rest => some (collected ('"' :: '"' :: acc), rest)
  | '"' :: '"' :: '"' :: '"' :: rest => some (collected ('"' :: acc), rest)
  | '"' :: '"' :: '"' :: rest => some (collected acc, rest)
  | '\\' :: 'u' :: a :: b :: c :: d :: rest =>
    match charOfHex? [a, b, c, d] with
    | some x => basicLines? false (x :: acc) rest
    | none => none
  | '\\' :: 'U' :: a :: b :: c :: d :: e :: f :: g :: h :: rest =>
    match charOfHex? [a, b, c, d, e, f, g, h] with
    | some x => basicLines? false (x :: acc) rest
    | none => none
  | '\r' :: '\n' :: rest =>
    if trim then basicLines? true acc rest else basicLines? false ('\n' :: acc) rest
  | '\\' :: c :: rest =>
    match named? c with
    | some x => basicLines? false (x :: acc) rest
    | none =>
      if (newline? (skipSpace (c :: rest))).isSome then basicLines? true acc (c :: rest) else none
  | c :: rest =>
    if c = '\n' then
      if trim then basicLines? true acc rest else basicLines? false ('\n' :: acc) rest
    else if trim && isSpace c then basicLines? true acc rest
    else if isTextChar c && c != '\\' then basicLines? false (c :: acc) rest
    else none

/-- The rest of a literal string over several lines. -/
def literalLines? (acc : List Char) : List Char → Option (String × List Char)
  | [] => none
  | '\'' :: '\'' :: '\'' :: '\'' :: '\'' :: rest => some (collected ('\'' :: '\'' :: acc), rest)
  | '\'' :: '\'' :: '\'' :: '\'' :: rest => some (collected ('\'' :: acc), rest)
  | '\'' :: '\'' :: '\'' :: rest => some (collected acc, rest)
  | '\r' :: '\n' :: rest => literalLines? ('\n' :: acc) rest
  | c :: rest => if c = '\n' || isTextChar c then literalLines? (c :: acc) rest else none

/-- The string at the front of a text, in any of the four forms. -/
def string? : List Char → Option (String × List Char)
  | '"' :: '"' :: '"' :: rest => basicLines? false [] ((newline? rest).getD rest)
  | '\'' :: '\'' :: '\'' :: rest => literalLines? [] ((newline? rest).getD rest)
  | '"' :: rest => basic? [] rest
  | '\'' :: rest => literal? [] rest
  | _ => none

end Conductor.Toml
