import Conductor.Toml.Statement

/-!
# Documents

A TOML text is read into its statements, and these are put together into one table. A text that does
not follow the grammar, or whose statements contradict each other, is no document.
-/

namespace Conductor.Toml

/-- A document that is being put together: the root table, and the path of the table that the last
header opened. -/
structure Draft where
  root : Entries
  current : List String

namespace Draft

def empty : Draft := ⟨[], []⟩

/-- Adds a statement, if it fits. -/
def add (d : Draft) : Statement → Option Draft
  | .table key => (d.root.openTable key.parents key.last).map (⟨·, key.path⟩)
  | .element key => (d.root.openElement key.parents key.last).map (⟨·, key.path⟩)
  | .pair key v =>
    (Entries.within false (fun _ es => es.assign key.parents key.last v .header)
      d.current .header d.root).map (⟨·, d.current⟩)

end Draft

/-- The entries of the table that the statements build, if none contradicts those before it. -/
def assemble? (statements : List Statement) : Option (List (String × Value)) :=
  (statements.foldlM Draft.add Draft.empty).map fun d => sealEntries d.root

/-- The text without a byte order mark at its front. -/
def skipMark : List Char → List Char
  | c :: s => if c.toNat = 0xFEFF then s else c :: s
  | [] => []

/-- The entries of the root table of a TOML text. -/
def read? (s : String) : Option (List (String × Value)) :=
  let cs := skipMark s.toList
  (statements? (cs.length + 1) cs).bind assemble?

end Conductor.Toml
