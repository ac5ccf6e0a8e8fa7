import Conductor.World.Path

/-!
# Files

The file system as a list of places with what is there. A place is the list of names from the root;
the root itself is always a directory. A file holds octets, and it may be a program: `τ` is the type of
the programs, about which nothing is assumed.

The operations fail with the errors of the operating system: a directory on the way that does not exist,
a file where a directory is needed, a name that is too long, and so on. What the system refuses for another
reason, be it a permission or a file system that is read-only, goes with the entry (`closed?`): a file can
be closed to reading, and a directory to new and to vanishing entries.

Left out are owners and modes, from which the system derives what it refuses; permission to search a
directory, of which only that its entries are closed can be said; links of both kinds; and devices, pipes
and sockets.
-/

namespace Conductor

/-- The names on the way from the root. -/
abbrev Place := List Bytes

/-- What a file can be started as. -/
inductive Use (τ : Type) where
  /-- It cannot be started. -/
  | data
  /-- It is marked as a program, but is none. -/
  | garbage
  | program (p : τ)

inductive Node (τ : Type) where
  | directory
  | file (content : Bytes) (use : Use τ)

/-- A place with what is there. -/
structure Entry (τ : Type) where
  place : Place
  node : Node τ
  /-- Why the file cannot be read, or why nothing in the directory can be made or removed, if that is so. -/
  closed : Option SystemError

/-- The files and directories of a system. -/
structure FileTree (τ : Type) where
  entries : List (Entry τ)

namespace FileTree

variable {τ : Type}

/-- Files and directories of which none is closed. -/
def ofNodes (nodes : List (Place × Node τ)) : FileTree τ :=
  ⟨nodes.map fun n => ⟨n.1, n.2, none⟩⟩

/-! ## Places -/

/-- The entry of a place. -/
def entryAt? (t : FileTree τ) (place : Place) : Option (Entry τ) :=
  t.entries.find? fun n => n.place == place

/-- What is at a place. -/
def node? (t : FileTree τ) (place : Place) : Option (Node τ) :=
  if place = [] then some .directory else (t.entryAt? place).map Entry.node

/-- Why what is at a place is closed, if it is. -/
def closed? (t : FileTree τ) (place : Place) : Option SystemError :=
  (t.entryAt? place).bind Entry.closed

/-- Puts something at a place, in place of what is there. What was closed stays closed. -/
def put (t : FileTree τ) (place : Place) (node : Node τ) : FileTree τ :=
  ⟨t.entries.filter (fun n => n.place != place) ++ [⟨place, node, t.closed? place⟩]⟩

/-- Takes away what is at a place. -/
def erase (t : FileTree τ) (place : Place) : FileTree τ :=
  ⟨t.entries.filter fun n => n.place != place⟩

/-- Takes away what is at a place or below it. -/
def eraseTree (t : FileTree τ) (place : Place) : FileTree τ :=
  ⟨t.entries.filter fun n => ! place.isPrefixOf n.place⟩

/-- Taking away what is at a place changes no other place. -/
theorem entryAt?_erase (t : FileTree τ) (place other : Place) :
    (t.erase place).entryAt? other = if other = place then none else t.entryAt? other := by
  unfold entryAt? erase
  rw [List.find?_filter]
  by_cases ho : other = place
  · subst ho
    rw [if_pos rfl, List.find?_eq_none.2 (by simp)]
  · rw [if_neg ho]
    congr 1
    funext n
    by_cases hn : n.place = other
    · simp [hn, ho]
    · simp [hn]

/-- What was put at a place is there, and every other place is as before. -/
theorem entryAt?_put (t : FileTree τ) (place : Place) (node : Node τ) (other : Place) :
    (t.put place node).entryAt? other =
      if other = place then some ⟨place, node, t.closed? place⟩ else t.entryAt? other := by
  have he := t.entryAt?_erase place other
  unfold entryAt? erase at he
  unfold entryAt? put
  rw [List.find?_append, he]
  by_cases ho : other = place
  · subst ho
    simp
  · have hne : (place == other) = false := by
      simpa using fun hc : place = other => ho hc.symm
    simp [ho, hne]

theorem node?_erase (t : FileTree τ) {place : Place} (h : place ≠ []) (other : Place) :
    (t.erase place).node? other = if other = place then none else t.node? other := by
  unfold node?
  rw [entryAt?_erase]
  by_cases ho : other = place
  · simp [ho, h]
  · simp [ho]

theorem node?_put (t : FileTree τ) {place : Place} (h : place ≠ []) (node : Node τ) (other : Place) :
    (t.put place node).node? other = if other = place then some node else t.node? other := by
  unfold node?
  rw [entryAt?_put]
  by_cases ho : other = place
  · simp [ho, h]
  · simp [ho]

theorem closed?_erase (t : FileTree τ) (place other : Place) :
    (t.erase place).closed? other = if other = place then none else t.closed? other := by
  unfold closed?
  rw [entryAt?_erase]
  by_cases ho : other = place
  · simp [ho]
  · simp [ho]

@[simp]
theorem closed?_put (t : FileTree τ) (place : Place) (node : Node τ) (other : Place) :
    (t.put place node).closed? other = t.closed? other := by
  rw [closed?, entryAt?_put]
  by_cases ho : other = place
  · simp [ho]
  · rw [if_neg ho]
    rfl

/-- Taking away again what was put at a vacant place leaves everything as it was. -/
theorem erase_put (t : FileTree τ) {place : Place} (h : t.node? place = none) (node : Node τ) :
    (t.put place node).erase place = t := by
  have hne : place ≠ [] := by
    intro hc
    simp [node?, hc] at h
  have hall : ∀ n ∈ t.entries, (n.place != place) = true := by
    simpa [node?, entryAt?, hne] using h
  have hf : t.entries.filter (fun n => n.place != place) = t.entries := List.filter_eq_self.2 hall
  simp [put, erase, List.filter_append, hf]

/-- One step on the way along a path. -/
def step (t : FileTree τ) (place : Place) (name : Bytes) : Except SystemError Place :=
  match t.node? place with
  | none => .error .notFound
  | some (.file ..) => .error .notADirectory
  | some .directory =>
    if name = Path.here then .ok place
    else if name = Path.parent then .ok place.dropLast
    else if Path.nameLimit < name.length then .error .nameTooLong
    else .ok (place ++ [name])

/-- The place that a path starts from. A working directory may have been deleted. -/
def start (cwd : Option Place) (p : Path) : Except SystemError Place :=
  if p.isAbsolute then .ok []
  else match cwd with
    | some place => .ok place
    | none => .error .notFound

/-- The place of a path. All directories on the way exist; whether something is at the place itself is
another matter. -/
def locate (t : FileTree τ) (cwd : Option Place) (p : Path) : Except SystemError Place := do
  Path.check p
  let place ← start cwd p
  (Path.names p).foldlM t.step place

/-- What is at the place of a path. -/
def find (t : FileTree τ) (cwd : Option Place) (p : Path) : Except SystemError (Node τ) := do
  let place ← t.locate cwd p
  match t.node? place with
  | some node => return node
  | none => .error .notFound

/-! ## Files -/

def isFile (t : FileTree τ) (cwd : Option Place) (p : Path) : Bool :=
  match t.find cwd p with
  | .ok (.file ..) => true
  | _ => false

/-- The content of a file. -/
def read (t : FileTree τ) (cwd : Option Place) (p : Path) : Except SystemError Bytes :=
  match t.find cwd p with
  | .ok (.file content _) => .ok content
  | .ok .directory => .error .isADirectory
  | .error e => .error e

/-- Why nothing can be made or removed at a place: the directory that it is in is closed. -/
def refusal? (t : FileTree τ) (place : Place) : Option SystemError :=
  t.closed? place.dropLast

/-- The content of a file that is open to reading. -/
def readOpen (t : FileTree τ) (cwd : Option Place) (p : Path) : Except SystemError Bytes := do
  let place ← t.locate cwd p
  match t.node? place, t.closed? place with
  | none, _ => .error .notFound
  | some .directory, _ => .error .isADirectory
  | some (.file ..), some e => .error e
  | some (.file content _), none => return content

/-- The place for a new file. -/
def vacancy (t : FileTree τ) (cwd : Option Place) (p : Path) : Except SystemError Place := do
  let place ← t.locate cwd p
  match t.node? place, t.refusal? place with
  | some _, _ => .error .fileExists
  | none, some e => .error e
  | none, none => return place

/-- Removes a file. -/
def remove (t : FileTree τ) (cwd : Option Place) (p : Path) : Except SystemError (FileTree τ) := do
  let place ← t.locate cwd p
  match t.node? place, t.refusal? place with
  | none, _ => .error .notFound
  | some _, some e => .error e
  | some .directory, none => .error .isADirectory
  | some (.file ..), none => return t.erase place

/-- Writes a file, which may exist. -/
def write (t : FileTree τ) (cwd : Option Place) (p : Path) (content : Bytes) (use : Use τ) :
    Except SystemError (FileTree τ) := do
  let place ← t.locate cwd p
  match t.node? place, t.refusal? place with
  | some .directory, _ => .error .isADirectory
  | some (.file ..), _ => return t.put place (.file content use)
  | none, some e => .error e
  | none, none => return t.put place (.file content use)

/-! ## Directories -/

/-- Goes one step along a path, making the directory there if nothing is. -/
def enter (t : FileTree τ) (place : Place) (name : Bytes) :
    Except SystemError (FileTree τ × Place) := do
  let next ← t.step place name
  match t.node? next, t.refusal? next with
  | some _, _ => return (t, next)
  | none, some e => .error e
  | none, none => return (t.put next .directory, next)

/-- Makes the directory of a path, with the directories on the way that are missing. -/
def makeDirectory (t : FileTree τ) (cwd : Option Place) (p : Path) :
    Except SystemError (FileTree τ) := do
  Path.check p
  let place ← start cwd p
  let (t, _) ← (Path.names p).foldlM (fun (t, place) name => t.enter place name) (t, place)
  return t

/-- Removes a file, or a directory with all that is in it. -/
def removeAll (t : FileTree τ) (cwd : Option Place) (p : Path) :
    Except SystemError (FileTree τ) := do
  let place ← t.locate cwd p
  match t.node? place with
  | some _ => return t.eraseTree place
  | none => .error .notFound

/-- What is below a place, relative to it. -/
def below (t : FileTree τ) (place : Place) : List (Place × Node τ) :=
  t.entries.filterMap fun n =>
    if place.isPrefixOf n.place && n.place != place then some (n.place.drop place.length, n.node) else none

end FileTree

end Conductor
