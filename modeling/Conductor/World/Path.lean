import Conductor.SystemError
import Conductor.Text.Pieces
import Conductor.Text.Utf8

/-!
# Paths

A path is a string of octets in which slashes divide the names of directories and files. A path that
begins with a slash starts at the root, every other one at the working directory. The names `.` and
`..` stand for the directory itself and for its parent, and empty names do not count.
-/

namespace Conductor

abbrev Path := Bytes

namespace Path

/-- The octet that divides names. -/
def slash : UInt8 := 47

/-- The name of a directory in itself. -/
def here : Bytes := [46]

/-- The name of the parent in a directory. -/
def parent : Bytes := [46, 46]

/-- A path as text, for a message. -/
def text (p : Path) : String :=
  Utf8.decodeLossy p

/-- The path of a name in a directory; the empty path is the working directory. -/
def join (dir : Path) (name : String) : Path :=
  if dir = [] then Utf8.encode name
  else if dir.getLast? = some slash then dir ++ Utf8.encode name
  else dir ++ slash :: Utf8.encode name

def isAbsolute (p : Path) : Bool :=
  p.head? = some slash

/-- The names to go through. A slash at the end asks for a directory, as the name `.` does. -/
def names (p : Path) : List Bytes :=
  let ps := pieces slash p
  ps.filter (· ≠ []) ++ if ps.getLast? = some [] then [here] else []

/-- The longest path that the system takes. -/
def lengthLimit : Nat := 4095

/-- The longest name that the system takes. -/
def nameLimit : Nat := 255

/-- What makes a path unusable as such, before anything is looked up. -/
def check (p : Path) : Except SystemError Unit :=
  if p.contains 0 then .error .nulInPath
  else if p = [] then .error .notFound
  else if lengthLimit < p.length then .error .nameTooLong
  else .ok ()

end Path

end Conductor
