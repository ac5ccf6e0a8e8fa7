import Conductor.Text.Unshown

/-!
# Quoted text

Text as it stands in messages that quote it: between double quotes, on one line, with the characters
that would not show spelled out. The quote, the backslash, tab, line feed, carriage return and NUL have
names of two characters; every other character that does not show is its number in lower-case
hexadecimal between braces. A single quote needs no escape.
-/

namespace Conductor

namespace Quoted

/-- How one character stands inside the quotes. -/
def escape (c : Char) : List Char :=
  if c = '"' then ['\\', '"']
  else if c = '\\' then ['\\', '\\']
  else if c = '\n' then ['\\', 'n']
  else if c = '\r' then ['\\', 'r']
  else if c = '\t' then ['\\', 't']
  else if c = '\x00' then ['\\', '0']
  else if isUnshown c then ['\\', 'u', '\x7b'] ++ Nat.toDigits 16 c.toNat ++ ['\x7d']
  else [c]

end Quoted

/-- The text between double quotes, as messages quote it. -/
def quoted (s : String) : String :=
  String.ofList ('"' :: s.toList.flatMap Quoted.escape ++ ['"'])

end Conductor
