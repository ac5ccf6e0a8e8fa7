import Conductor.Proofs.Lifetime

/-!
# Processes side by side

Any number of processes may run at once, with one file system between them. What a process does with a
scratch file falls into four atomic steps: it opens the file, writes it, lets the toolchain run, and
removes it. Done in a row they are the pipeline (`Task.compile_eq_alone`); here they are interleaved in
every order, also those of two runs of one process.

The invariant gives every run a home, the place that its path leads to at the start. Homes are fixed
beforehand and differ from each other, because names do (`At.unique`); what is at a home depends on the
stage of its own run alone (`Holds`), and everywhere else all is as it was. `Effect` says once what a step
can do, and both the invariant and the independence of the other runs follow from it.

A program may do with its source as it likes. If it makes a directory of it, the directory stays, because
only a file is removed (`directory_outlives_run`). Paths still lead where they led: all runs share one
scratch directory, and no home is on the way to it.
-/

namespace Conductor

variable {ι τ : Type}

/-! ## The steps -/

namespace FileTree

/-- Replaces the content of an open file. One that is gone is written in vain. -/
def overwrite (t : FileTree τ) (place : Place) (content : Bytes) : FileTree τ :=
  match t.node? place with
  | some (.file _ use) => t.put place (.file content use)
  | _ => t

theorem node?_overwrite {t : FileTree τ} {place : Place} {old : Bytes} {use : Use τ}
    (h : t.node? place = some (.file old use)) (content : Bytes) (other : Place) :
    (t.overwrite place content).node? other =
      if other = place then some (.file content use) else t.node? other := by
  rw [overwrite, h]
  exact node?_put t (ne_nil_of_node?_eq_file h) _ other

@[simp]
theorem closed?_overwrite (t : FileTree τ) (place : Place) (content : Bytes) (other : Place) :
    (t.overwrite place content).closed? other = t.closed? other := by
  unfold overwrite
  split
  · exact closed?_put ..
  · rfl

end FileTree

namespace World

/-- Opens a new scratch file, which is empty at first. -/
def openScratch (w : World τ) (dir : Path) : Except Failure (Path × Place) × World τ :=
  let (name, w) := w.drawName
  let p := Path.join dir name
  match w.openNew p with
  | .error e => (.error (.artifact p e), w.record (.notCreated p e))
  | .ok place =>
    (.ok (p, place), { w with files := w.files.put place (.file [] .data) }.record (.created p))

/-- Writes an open scratch file, as far as the limits allow. -/
def writeScratch (w : World τ) (p : Path) (place : Place) (content : Bytes) :
    Except Failure Unit × World τ :=
  let writing := Scratch.Writing.ofLimit w.sizeLimit content
  let w := { w with files := w.files.overwrite place writing.content }
  match writing.error with
  | some e => (.error (.artifact p e), w)
  | none => (.ok (), w.record (creationRecord p content))

theorem openScratch_of_error {w : World τ} {dir : Path} {e : SystemError}
    (h : w.openNew (w.scratchPath dir) = .error e) :
    w.openScratch dir = (.error (.artifact (w.scratchPath dir) e),
      w.after w.files (w.drawn + 1) [.notCreated (w.scratchPath dir) e]) := by
  have hopen : openNew { w with drawn := w.drawn + 1 } (Path.join dir w.nextName) = .error e := h
  simp only [openScratch, drawName_eq, hopen]
  rfl

theorem openScratch_of_ok {w : World τ} {dir : Path} {place : Place}
    (h : w.openNew (w.scratchPath dir) = .ok place) :
    w.openScratch dir = (.ok (w.scratchPath dir, place), w.created dir place [] []) := by
  have hopen : openNew { w with drawn := w.drawn + 1 } (Path.join dir w.nextName) = .ok place := h
  simp only [openScratch, drawName_eq, hopen]
  rfl

/-- Writing changes the open file and nothing else. -/
theorem writeScratch_of_error {w : World τ} {content : Bytes} {e : SystemError}
    (h : (Scratch.Writing.ofLimit w.sizeLimit content).error = some e) (p : Path) (place : Place) :
    w.writeScratch p place content = (.error (.artifact p e),
      w.after (w.files.overwrite place (Scratch.Writing.ofLimit w.sizeLimit content).content) w.drawn
        []) := by
  simp [writeScratch, h, after]

theorem writeScratch_of_none {w : World τ} {content : Bytes}
    (h : (Scratch.Writing.ofLimit w.sizeLimit content).error = none) (p : Path) (place : Place) :
    w.writeScratch p place content = (.ok (),
      w.after (w.files.overwrite place content) w.drawn [creationRecord p content]) := by
  simp [writeScratch, h, Scratch.Writing.content_of_error_eq_none h, after, record]

/-- Opening a scratch file and writing it is creating it. -/
theorem createScratch_eq (w : World τ) (dir : Path) (content : Bytes) :
    w.createScratch dir content =
      match w.openScratch dir with
      | (.error f, w) => (.error f, w)
      | (.ok (p, place), w) =>
        match w.writeScratch p place content with
        | (.error f, w) => (.error f, w.release p)
        | (.ok _, w) => (.ok p, w) := by
  cases h : w.openNew (w.scratchPath dir) with
  | error e => rw [World.createScratch_of_error h, World.openScratch_of_error h]
  | ok place =>
    obtain ⟨-, hnone, -⟩ := FileTree.vacancy_eq_ok.1 (World.openNew_eq_ok.1 h).2
    have hover : ∀ c, (w.files.put place (.file [] .data)).overwrite place c =
        w.files.put place (.file c .data) := by
      intro c
      rw [FileTree.overwrite, FileTree.node?_put _ (FileTree.ne_nil_of_node?_eq_none hnone),
        if_pos rfl]
      exact FileTree.put_put w.files place _ _
    rw [World.createScratch_of_ok h, World.openScratch_of_ok h]
    dsimp only
    cases he : (Scratch.Writing.ofLimit w.sizeLimit content).error with
    | some e =>
      rw [writeScratch_of_error (w := w.created dir place [] []) he]
      simp only [created, after_files, after_after, after_drawn, after_sizeLimit, hover,
        List.append_nil]
    | none =>
      rw [writeScratch_of_none (w := w.created dir place [] []) he]
      simp only [created, after_files, after_after, after_drawn, hover]
      rfl

end World

/-- A call that needs program text and has it. -/
structure Task (τ : Type) where
  call : Call τ
  mode : Mode
  source : Source
  needs : call.command.mode? = some mode
  has : call.dispatcher.synthesizer mode none = .ok source

namespace Task

/-- The directory for the scratch file. -/
def dir (task : Task τ) : Path :=
  task.call.dispatcher.scratchDir

/-- What the scratch file is to hold. -/
def text (task : Task τ) : Bytes :=
  task.source.bytes

/-- Lets the toolchain run on a scratch file. -/
def use (task : Task τ) (p : Path) (w : World τ) : Except Failure Toolchain.Outcome × World τ :=
  Toolchain.invoke task.call.dispatcher.program (task.call.command.flags.map Utf8.encode ++ [p])
    task.call.command.target.settings w

/-- The steps of a task in a row. -/
def alone (task : Task τ) (w : World τ) : Except Failure String × World τ :=
  match w.openScratch task.dir with
  | (.error f, w) => (.error f, w)
  | (.ok (p, place), w) =>
    match w.writeScratch p place task.text with
    | (.error f, w) => (.error f, w.release p)
    | (.ok _, w) => ((task.use p w).1.map Toolchain.Outcome.output, (task.use p w).2.release p)

theorem compile_eq_alone (task : Task τ) (w : World τ) :
    task.call.dispatcher.compile task.mode task.call.command.flags task.call.command.target.settings w =
      task.alone (w.record (.synthesized task.mode none)) := by
  unfold Dispatcher.compile alone dir text
  simp only [task.has, World.withScratch, World.createScratch_eq]
  rcases (w.record (.synthesized task.mode none)).openScratch task.call.dispatcher.scratchDir with
    ⟨f | ⟨p, place⟩, v⟩
  · rfl
  dsimp only
  rcases v.writeScratch p place task.source.bytes with ⟨f | _, v⟩
  · rfl
  dsimp only [use]
  rcases Toolchain.invoke task.call.dispatcher.program
    (task.call.command.flags.map Utf8.encode ++ [p]) task.call.command.target.settings v with
    ⟨f | outcome, v⟩
  · rfl
  · rfl

end Task

/-! ## Systems of processes -/

/-- How far a run of the pipeline has come. -/
inductive Stage where
  | waiting
  /-- The scratch file is open at the place. -/
  | opened (p : Path) (place : Place)
  | written (p : Path)
  /-- The scratch file was not written in full. -/
  | spoiled (p : Path)
  /-- The toolchain was asked. -/
  | used (p : Path)
  | closed
  deriving DecidableEq, Repr

/-- The path of the scratch file that a run has about. -/
def Stage.path? : Stage → Option Path
  | .opened p _ | .written p | .spoiled p | .used p => some p
  | .waiting | .closed => none

/-- Processes on one file system. The files in the world of a process are not its own: every step goes by
the files of the system. -/
structure System (ι τ : Type) where
  files : FileTree τ
  world : ι → World τ
  /-- How far each run of each process has come. The runs of a process are numbered by the names drawn. -/
  stage : ι → Nat → Stage

namespace System

/-- The system as a process sees it. -/
def view (s : System ι τ) (i : ι) : World τ :=
  { s.world i with files := s.files }

/-- The world in which a process makes the next step of a task. -/
def enter (s : System ι τ) (task : Task τ) (i : ι) : World τ :=
  task.call.enter (s.view i)

variable [DecidableEq ι]

/-- The system after a step of a run, with the world and the stage that it led to. -/
def put (s : System ι τ) (i : ι) (k : Nat) (w : World τ) (stage : Stage) : System ι τ where
  files := w.files
  world := fun j => if j = i then w else s.world j
  stage := fun j l => if j = i ∧ l = k then stage else s.stage j l

/-- The next step of a run. The runs of a process begin in order. -/
def advance (tasks : ι → Nat → Task τ) (s : System ι τ) (i : ι) (k : Nat) : System ι τ :=
  let task := tasks i k
  let w := s.enter task i
  match s.stage i k with
  | .waiting =>
    if k = (s.world i).drawn then
      match w.openScratch task.dir with
      | (.error _, w) => s.put i k w .closed
      | (.ok (p, place), w) => s.put i k w (.opened p place)
    else s
  | .opened p place =>
    match w.writeScratch p place task.text with
    | (.error _, w) => s.put i k w (.spoiled p)
    | (.ok _, w) => s.put i k w (.written p)
  | .written p => s.put i k (task.use p w).2 (.used p)
  | .spoiled p | .used p => s.put i k (w.release p) .closed
  | .closed => s

/-- The steps of runs in the given order. -/
def run (tasks : ι → Nat → Task τ) (s : System ι τ) (schedule : List (ι × Nat)) : System ι τ :=
  schedule.foldl (fun s r => s.advance tasks r.1 r.2) s

/-- The steps of runs in the given order, each with the system in which it is made. -/
def steps (tasks : ι → Nat → Task τ) : System ι τ → List (ι × Nat) → List (System ι τ × ι × Nat)
  | _, [] => []
  | s, r :: schedule => (s, r) :: steps tasks (s.advance tasks r.1 r.2) schedule

/-- What the next step of a run adds to the trace of its process. -/
def events (tasks : ι → Nat → Task τ) (s : System ι τ) (i : ι) (k : Nat) : List (Event τ) :=
  (s.world i).since ((s.advance tasks i k).world i)

/-- A program that is started in the next step of a run touches nothing but the place that its last argument
leads to. -/
def KeepsToSource (tasks : ι → Nat → Task τ) (s : System ι τ) (i : ι) (k : Nat) : Prop :=
  ∀ launch p source files path, .started launch p source files ∈ s.events tasks i k →
    launch.args.getLast? = some path → ∀ place, files.locate launch.cwd path ≠ .ok place →
      let left := ((tasks i k).call.behave p launch files).files
      left.node? place = files.node? place ∧ left.closed? place = files.closed? place

/-- A program that is started in the next step of a run leaves a directory in place of its source. -/
def LeavesDirectory (tasks : ι → Nat → Task τ) (s : System ι τ) (i : ι) (k : Nat) : Prop :=
  ∃ launch p source files path place, .started launch p source files ∈ s.events tasks i k ∧
    launch.args.getLast? = some path ∧ files.locate launch.cwd path = .ok place ∧
    ((tasks i k).call.behave p launch files).files.node? place = some .directory

/-- What happens when the toolchain runs is what happens in the step. -/
theorem events_of_written {tasks : ι → Nat → Task τ} {s : System ι τ} {i : ι} {k : Nat} {p : Path}
    (hstage : s.stage i k = .written p) {files : FileTree τ} {drawn : Nat} {events : List (Event τ)}
    (h : ((tasks i k).use p (s.enter (tasks i k) i)).2 =
      (s.enter (tasks i k) i).after files drawn events) : s.events tasks i k = events := by
  have hworld : (s.advance tasks i k).world i = ((tasks i k).use p (s.enter (tasks i k) i)).2 := by
    simp [advance, hstage, put]
  rw [System.events, hworld, h]
  exact World.since_eq rfl

end System

/-! ## Homes -/

/-- The path of the scratch file of a run. -/
def home (tasks : ι → Nat → Task τ) (s : System ι τ) (i : ι) (k : Nat) : Path :=
  Path.join (tasks i k).dir
    (Scratch.name (s.world i).pid ((s.world i).clock k) (UInt64.ofNat (k + 1)))

/-- The home of a run: the place that the path of its scratch file leads to. -/
def At (tasks : ι → Nat → Task τ) (s : System ι τ) (i : ι) (k : Nat) (place : Place) : Prop :=
  s.files.locate (s.world i).cwd (home tasks s i k) = .ok place

/-- No two runs have the same home. -/
theorem At.unique {tasks : ι → Nat → Task τ} {s : System ι τ}
    (hpid : Function.Injective fun i => (s.world i).pid) {i j : ι} {k l : Nat} {place : Place}
    (h : At tasks s i k place) (h' : At tasks s j l place) (hk : k + 1 < UInt64.size)
    (hl : l + 1 < UInt64.size) : i = j ∧ k = l := by
  -- A place ends with the name of the file, and the name tells the process and the number of the run.
  have hname := FileTree.name_eq_of_locate_eq (Scratch.isPlain_encode_name _ _ _)
    (Scratch.isPlain_encode_name _ _ _) h h'
  obtain ⟨hpids, -, hcounter⟩ := Scratch.name_inj.1 hname
  have hnat := congrArg UInt64.toNat hcounter
  rw [UInt64.toNat_ofNat_of_lt' hk, UInt64.toNat_ofNat_of_lt' hl] at hnat
  exact ⟨hpid hpids, by omega⟩

/-! ## The invariant -/

/-- What is at the home of a run with the given text, by the stage of the run; `made` is whether the
program made a directory of it. -/
def Stage.Holds (text : Bytes) (place : Place) (made : Prop) (node : Option (Node τ)) : Stage → Prop
  | .waiting => node = none
  | .opened _ there => there = place ∧ node = some (.file [] .data)
  | .written _ => node = some (.file text .data)
  | .spoiled _ => ∃ content, node = some (.file content .data)
  | .used _ => node = some .directory → made
  | .closed => node = none ∨ node = some .directory ∧ made

/-- A directory at a home was made by the program of the run. -/
theorem Stage.Holds.made {stage : Stage} {text : Bytes} {place : Place} {made : Prop}
    {node : Option (Node τ)} (h : stage.Holds text place made node) (hdir : node = some .directory) :
    made := by
  subst hdir
  cases stage with
  | waiting => cases h
  | opened p there => cases h.2
  | written p => cases h
  | spoiled p =>
    obtain ⟨content, hfile⟩ := h
    cases hfile
  | used p => exact h rfl
  | closed =>
    rcases h with hnone | ⟨-, hmade⟩
    · cases hnone
    · exact hmade

/-- What a process keeps of itself. -/
structure Kept (w v : World τ) : Prop where
  cwd : w.cwd = v.cwd
  pid : w.pid = v.pid
  clock : w.clock = v.clock

/-- How a system is started for the given runs: none has begun, the processes have different numbers, each
has less runs than its counter of 64 bits can number, nothing is at the path of any scratch file to come, and
all runs share one scratch directory, whichever paths lead to it. -/
structure Start (tasks : ι → Nat → Task τ) (runs : ι → Nat → Prop) (s : System ι τ) : Prop where
  waiting : ∀ i k, s.stage i k = .waiting
  pids : Function.Injective fun i => (s.world i).pid
  bound : ∀ i k, runs i k → k + 1 < UInt64.size
  fresh : ∀ i k, runs i k → ¬ s.files.Present (s.world i).cwd (home tasks s i k)
  shared : ∀ i k j l, runs i k → runs j l →
    s.files.host (s.world i).cwd (tasks i k).dir = s.files.host (s.world j).cwd (tasks j l).dir

/-- Every scratch file is at the home of its own run, as the stage of the run has it, and everywhere else
all is as at the start; `made` names the runs whose programs may have made a directory of the source. -/
structure Tidy (tasks : ι → Nat → Task τ) (runs made : ι → Nat → Prop) (s₀ s : System ι τ) : Prop where
  kept : ∀ i, Kept (s.world i) (s₀.world i)
  homes : ∀ i k p, (s.stage i k).path? = some p →
    p = home tasks s₀ i k ∧ runs i k ∧
      ∃ place, At tasks s₀ i k place ∧ s₀.files.refusal? place = none
  own : ∀ i k place, runs i k → At tasks s₀ i k place →
    (s.stage i k).Holds (tasks i k).text place (made i k) (s.files.node? place)
  rest : ∀ place, (∀ i k, runs i k → ¬ At tasks s₀ i k place) →
    s.files.node? place = s₀.files.node? place ∧ s.files.closed? place = s₀.files.closed? place

section Invariant

variable {tasks : ι → Nat → Task τ} {runs made : ι → Nat → Prop} {s₀ s : System ι τ}

theorem Start.node?_eq_none (h : Start tasks runs s₀) {i : ι} {k : Nat} {place : Place}
    (hr : runs i k) (hplace : At tasks s₀ i k place) : s₀.files.node? place = none := by
  rw [Option.eq_none_iff_forall_not_mem]
  intro node hnode
  exact h.fresh i k hr (FileTree.present_iff.2 ⟨place, node, hplace, hnode⟩)

/-- The directory of a home is there at the start, and so it is no home itself. -/
theorem Start.not_at_dropLast (h : Start tasks runs s₀) {i : ι} {k : Nat} {place : Place}
    (hplace : At tasks s₀ i k place) {j : ι} {l : Nat} (hr : runs j l) :
    ¬ At tasks s₀ j l place.dropLast := by
  intro hother
  obtain ⟨mid, hhost, rfl⟩ := FileTree.locate_join (Scratch.isPlain_encode_name _ _ _) hplace
  rw [List.dropLast_concat] at hother
  have hdir := FileTree.node?_host hhost
  rw [h.node?_eq_none hr hother] at hdir
  cases hdir

theorem Start.tidy (h : Start tasks runs s₀) : Tidy tasks runs made s₀ s₀ where
  kept _ := ⟨rfl, rfl, rfl⟩
  homes i k p hp := by
    rw [h.waiting i k] at hp
    cases hp
  own i k place hr hplace := by
    rw [h.waiting i k]
    exact h.node?_eq_none hr hplace
  rest _ _ := ⟨rfl, rfl⟩

namespace Tidy

variable {i : ι} {k : Nat}

/-- No step takes away a directory that was there at the start. -/
theorem directory_mono (h : Tidy tasks runs made s₀ s) (h₀ : Start tasks runs s₀) (place : Place)
    (hdir : s₀.files.node? place = some .directory) : s.files.node? place = some .directory := by
  rw [(h.rest place ?_).1, hdir]
  intro i k hr hplace
  rw [h₀.node?_eq_none hr hplace] at hdir
  cases hdir

/-- The scratch directory is where it was at the start. -/
theorem host_eq (h : Tidy tasks runs made s₀ s) (h₀ : Start tasks runs s₀) (hr : runs i k) :
    s.files.host (s₀.world i).cwd (tasks i k).dir = s₀.files.host (s₀.world i).cwd (tasks i k).dir := by
  -- If some run has a home, the directory is there, and no directory is lost. Otherwise all is as it was.
  by_cases hhome : ∃ j l place, runs j l ∧ At tasks s₀ j l place
  · obtain ⟨j, l, place, hr', hplace⟩ := hhome
    obtain ⟨mid, hhost, -⟩ := FileTree.locate_join (Scratch.isPlain_encode_name _ _ _) hplace
    rw [← h₀.shared i k j l hr hr'] at hhost
    rw [hhost]
    exact FileTree.host_mono (h.directory_mono h₀) hhost
  · have hrest := fun place => h.rest place fun j l hr' hplace => hhome ⟨j, l, place, hr', hplace⟩
    exact FileTree.Same.host ⟨fun place => (hrest place).1, fun place => (hrest place).2⟩ _ _

/-- A process is the same in the world in which it makes a step. -/
theorem kept_after (h : Tidy tasks runs made s₀ s) (task : Task τ) (files : FileTree τ) (drawn : Nat)
    (events : List (Event τ)) : Kept ((s.enter task i).after files drawn events) (s₀.world i) :=
  ⟨(h.kept i).cwd, (h.kept i).pid, (h.kept i).clock⟩

theorem scratchPath_eq (h : Tidy tasks runs made s₀ s) (hk : k = (s.world i).drawn) :
    (s.enter (tasks i k) i).scratchPath (tasks i k).dir = home tasks s₀ i k := by
  unfold World.scratchPath home
  rw [← (h.kept i).pid, ← (h.kept i).clock, hk]
  rfl

/-- So the path of a scratch file leads where it led at the start. -/
theorem at_iff (h : Tidy tasks runs made s₀ s) (h₀ : Start tasks runs s₀) (hr : runs i k) {place : Place} :
    s.files.locate (s.world i).cwd (home tasks s₀ i k) = .ok place ↔ At tasks s₀ i k place := by
  rw [(h.kept i).cwd, At, home,
    FileTree.locate_join_congr (Scratch.isPlain_encode_name _ _ _) (h.host_eq h₀ hr)]

/-- And it is closed to new and to vanishing entries if it was at the start. -/
theorem refusal?_eq (h : Tidy tasks runs made s₀ s) (h₀ : Start tasks runs s₀) {place : Place}
    (hplace : At tasks s₀ i k place) : s.files.refusal? place = s₀.files.refusal? place :=
  (h.rest place.dropLast fun _ _ hr => h₀.not_at_dropLast hplace hr).2

end Tidy

/-- What a step of a run does: it may change what is at the home of the run, and nothing else. -/
structure Effect (tasks : ι → Nat → Task τ) (runs made : ι → Nat → Prop) (s₀ s : System ι τ) (i : ι)
    (k : Nat) (w : World τ) (stage : Stage) : Prop where
  mem : runs i k
  kept : Kept w (s₀.world i)
  home : ∀ p, stage.path? = some p →
    p = home tasks s₀ i k ∧ ∃ place, At tasks s₀ i k place ∧ s₀.files.refusal? place = none
  frame : ∀ place, ¬ At tasks s₀ i k place →
    w.files.node? place = s.files.node? place ∧ w.files.closed? place = s.files.closed? place
  own : ∀ place, At tasks s₀ i k place →
    stage.Holds (tasks i k).text place (made i k) (w.files.node? place)

/-! ## What the steps do -/

namespace Tidy

variable {i : ι} {k : Nat}

theorem effect_open_error (h : Tidy tasks runs made s₀ s) (hstage : s.stage i k = .waiting)
    (hr : runs i k) (e : Event τ) :
    Effect tasks runs made s₀ s i k
      ((s.enter (tasks i k) i).after s.files ((s.world i).drawn + 1) [e]) .closed where
  mem := hr
  kept := h.kept_after _ _ _ _
  home _ hp := by cases hp
  frame _ _ := ⟨rfl, rfl⟩
  own place hplace := by
    have hown := h.own i k place hr hplace
    rw [hstage] at hown
    exact Or.inl hown

theorem effect_open_ok (h : Tidy tasks runs made s₀ s) (h₀ : Start tasks runs s₀) (hk : k = (s.world i).drawn)
    (hr : runs i k) {place : Place}
    (ho : (s.enter (tasks i k) i).openNew
      ((s.enter (tasks i k) i).scratchPath (tasks i k).dir) =
        .ok place) (e : Event τ) :
    Effect tasks runs made s₀ s i k
      ((s.enter (tasks i k) i).after (s.files.put place (.file [] .data))
        ((s.world i).drawn + 1) [e])
      (.opened ((s.enter (tasks i k) i).scratchPath
        (tasks i k).dir) place) := by
  have hpath := h.scratchPath_eq hk
  obtain ⟨hlocate, hnone, hopen⟩ := FileTree.vacancy_eq_ok.1 (World.openNew_eq_ok.1 ho).2
  -- The file is opened where its path led at the start: the directory is where it was.
  have hhere : At tasks s₀ i k place := by
    rw [hpath] at hlocate
    exact (h.at_iff h₀ hr).1 hlocate
  have hnode := fun other => FileTree.node?_put s.files (FileTree.ne_nil_of_node?_eq_none hnone)
    (.file [] .data) other
  refine ⟨hr, h.kept_after _ _ _ _, ?_, ?_, ?_⟩
  · rintro p hp
    obtain rfl := Option.some.inj hp
    exact ⟨hpath, place, hhere, (h.refusal?_eq h₀ hhere).symm.trans hopen⟩
  · intro other hother
    have hne : other ≠ place := by
      rintro rfl
      exact hother hhere
    rw [World.after_files, hnode, if_neg hne, FileTree.closed?_put]
    exact ⟨rfl, rfl⟩
  · intro there hthere
    obtain rfl : place = there := FileTree.locate_unique hhere hthere
    refine ⟨rfl, ?_⟩
    rw [World.after_files, hnode, if_pos rfl]

theorem effect_write (h : Tidy tasks runs made s₀ s) {p : Path} {there : Place}
    (hstage : s.stage i k = .opened p there) {content : Bytes} {stage : Stage}
    (hpath : stage.path? = some p)
    (hholds : ∀ place, stage.Holds (tasks i k).text place (made i k)
      (some (Node.file content (Use.data : Use τ)))) (drawn : Nat) (events : List (Event τ)) :
    Effect tasks runs made s₀ s i k
      ((s.enter (tasks i k) i).after (s.files.overwrite there content) drawn events)
      stage := by
  obtain ⟨hhome, hr, place, hplace, hopen⟩ := h.homes i k p (by rw [hstage]; rfl)
  have hown := h.own i k place hr hplace
  rw [hstage] at hown
  obtain ⟨rfl, hempty⟩ := hown
  have hnode := FileTree.node?_overwrite hempty content
  refine ⟨hr, h.kept_after _ _ _ _, ?_, ?_, ?_⟩
  · intro q hq
    obtain rfl : p = q := Option.some.inj (hpath.symm.trans hq)
    exact ⟨hhome, there, hplace, hopen⟩
  · intro other hother
    have hne : other ≠ there := by
      rintro rfl
      exact hother hplace
    rw [World.after_files, hnode, if_neg hne, FileTree.closed?_overwrite]
    exact ⟨rfl, rfl⟩
  · intro other hother
    obtain rfl : there = other := FileTree.locate_unique hplace hother
    rw [World.after_files, hnode, if_pos rfl]
    exact hholds there

theorem effect_release (h : Tidy tasks runs made s₀ s) (h₀ : Start tasks runs s₀) {p : Path}
    (hstage : (s.stage i k).path? = some p) :
    Effect tasks runs made s₀ s i k ((s.enter (tasks i k) i).release p) .closed := by
  obtain ⟨rfl, hr, place, hplace, hopen⟩ := h.homes i k p hstage
  have hl : s.files.locate (s.world i).cwd (home tasks s₀ i k) = .ok place := (h.at_iff h₀ hr).2 hplace
  rw [World.release_eq_after]
  refine ⟨hr, h.kept_after _ _ _ _, ?_, ?_, ?_⟩
  · intro q hq
    cases hq
  · intro other hother
    have hne : s.files.locate (s.world i).cwd (home tasks s₀ i k) ≠ .ok other :=
      fun hl' => hother ((h.at_iff h₀ hr).1 hl')
    rw [World.after_files]
    refine ⟨?_, FileTree.closed?_without _ _ _ hne⟩
    rcases s.files.node?_without (s.world i).cwd (home tasks s₀ i k) other with hsame | ⟨hl', -⟩
    · exact hsame
    · exact absurd hl' hne
  · intro there hthere
    obtain rfl : place = there := FileTree.locate_unique hplace hthere
    rw [World.after_files]
    by_cases hdir : s.files.node? place = some .directory
    · -- The removal of a directory fails, and it is the program that made it.
      have hmade := (h.own i k place hr hplace).made hdir
      exact Or.inr ⟨FileTree.directory_without _ _ _ place hdir, hmade⟩
    · exact Or.inl (FileTree.node?_without_self hl hdir ((h.refusal?_eq h₀ hplace).trans hopen))

end Tidy

variable [DecidableEq ι]

theorem Tidy.effect_use (h : Tidy tasks runs made s₀ s) (h₀ : Start tasks runs s₀) {i : ι} {k : Nat}
    (hkeeps : s.KeepsToSource tasks i k) (hmade : s.LeavesDirectory tasks i k → made i k) {p : Path}
    (hstage : s.stage i k = .written p) :
    Effect tasks runs made s₀ s i k ((tasks i k).use p (s.enter (tasks i k) i)).2 (.used p) := by
  obtain ⟨hhome, hr, place, hplace, hopen⟩ := h.homes i k p (by rw [hstage]; rfl)
  have hl : s.files.locate (s.world i).cwd p = .ok place := by
    rw [hhome]
    exact (h.at_iff h₀ hr).2 hplace
  have hfile : s.files.node? place = some (.file (tasks i k).text .data) := by
    have hown := h.own i k place hr hplace
    rw [hstage] at hown
    exact hown
  obtain ⟨files, events, hworld, hcases⟩ := (Toolchain.invoke_invocation
    (tasks i k).call.dispatcher.program ((tasks i k).call.command.flags.map Utf8.encode ++ [p])
    (tasks i k).call.command.target.settings (s.enter (tasks i k) i)).actions
  have hstarted : files = s.files ∨ ∃ launch program source, launch.args.getLast? = some p ∧
      launch.cwd = (s.world i).cwd ∧ .started launch program source s.files ∈ s.events tasks i k ∧
      files = ((tasks i k).call.behave program launch s.files).files := by
    rcases hcases with ⟨-, rfl⟩ | ⟨program, conduct, rfl, rfl, hactions⟩
    · exact Or.inl rfl
    · have hin := mem_of_actions_eq_cons hactions
      rw [← System.events_of_written hstage hworld] at hin
      exact Or.inr ⟨_, program, _, List.getLast?_concat .., rfl, hin, rfl⟩
  rw [Task.use, hworld]
  refine ⟨hr, h.kept_after _ _ _ _, ?_, ?_, ?_⟩
  · intro q hq
    obtain rfl := Option.some.inj hq
    exact ⟨hhome, place, hplace, hopen⟩
  · intro other hother
    rw [World.after_files]
    rcases hstarted with rfl | ⟨launch, program, source, hlast, hcwd, hin, rfl⟩
    · exact ⟨rfl, rfl⟩
    · -- Whatever the program did, it did it at the place that its last argument leads to.
      refine hkeeps launch program source _ p hin hlast other fun hl' => hother ?_
      rw [hcwd] at hl'
      exact FileTree.locate_unique hl hl' ▸ hplace
  · intro there hthere hdir
    obtain rfl : place = there := FileTree.locate_unique hplace hthere
    rw [World.after_files] at hdir
    rcases hstarted with rfl | ⟨launch, program, source, hlast, hcwd, hin, rfl⟩
    · rw [hfile] at hdir
      cases hdir
    · exact hmade ⟨launch, program, source, s.files, p, place, hin, hlast, hcwd ▸ hl, hdir⟩

theorem Effect.tidy {i : ι} {k : Nat} {w : World τ} {stage : Stage} (h₀ : Start tasks runs s₀)
    (he : Effect tasks runs made s₀ s i k w stage) (h : Tidy tasks runs made s₀ s) :
    Tidy tasks runs made s₀ (s.put i k w stage) where
  kept j := by
    by_cases hj : j = i
    · subst hj
      simpa [System.put] using he.kept
    · simpa [System.put, hj] using h.kept j
  homes j l p hp := by
    by_cases hjl : j = i ∧ l = k
    · obtain ⟨rfl, rfl⟩ := hjl
      rw [System.put] at hp
      obtain ⟨hhome, hplace⟩ := he.home p (by simpa using hp)
      exact ⟨hhome, he.mem, hplace⟩
    · exact h.homes j l p (by simpa [System.put, hjl] using hp)
  own j l place hl hplace := by
    by_cases hjl : j = i ∧ l = k
    · obtain ⟨rfl, rfl⟩ := hjl
      simpa [System.put] using he.own place hplace
    · -- The home of another run is not the one that the step may change.
      have hother : ¬ At tasks s₀ i k place := fun hk =>
        hjl (hplace.unique h₀.pids hk (h₀.bound j l hl) (h₀.bound i k he.mem))
      have hown := h.own j l place hl hplace
      rw [← (he.frame place hother).1] at hown
      simpa [System.put, hjl] using hown
  rest place hplace := by
    obtain ⟨hnode, hclosed⟩ := he.frame place (hplace i k he.mem)
    rw [System.put, hnode, hclosed]
    exact h.rest place hplace

/-- All that a step can do. -/
theorem Tidy.advance_effect (h : Tidy tasks runs made s₀ s) (h₀ : Start tasks runs s₀) {i : ι} {k : Nat}
    (hr : runs i k) (hkeeps : s.KeepsToSource tasks i k) (hmade : s.LeavesDirectory tasks i k → made i k) :
    s.advance tasks i k = s ∨
      ∃ w stage, s.advance tasks i k = s.put i k w stage ∧
        Effect tasks runs made s₀ s i k w stage := by
  -- One case for each stage. A run whose turn has not come, or that has ended, stays as it is.
  unfold System.advance
  cases hstage : s.stage i k with
  | waiting =>
    dsimp only
    split
    · next hk =>
      right
      cases ho : (s.enter (tasks i k) i).openNew
          ((s.enter (tasks i k) i).scratchPath
            (tasks i k).dir) with
      | error e =>
        rw [World.openScratch_of_error ho]
        exact ⟨_, _, rfl, h.effect_open_error hstage hr _⟩
      | ok place =>
        rw [World.openScratch_of_ok ho]
        exact ⟨_, _, rfl, h.effect_open_ok h₀ hk hr ho _⟩
    · exact Or.inl rfl
  | opened p there =>
    right
    dsimp only
    cases he : (Scratch.Writing.ofLimit (tasks i k).call.sizeLimit (tasks i k).text).error with
    | some e =>
      rw [World.writeScratch_of_error (w := s.enter (tasks i k) i) he]
      refine ⟨_, .spoiled p, rfl, h.effect_write hstage rfl ?_ _ _⟩
      exact fun place => ⟨_, rfl⟩
    | none =>
      rw [World.writeScratch_of_none (w := s.enter (tasks i k) i) he]
      refine ⟨_, .written p, rfl, h.effect_write hstage rfl ?_ _ _⟩
      exact fun place => rfl
  | written p => exact Or.inr ⟨_, _, rfl, h.effect_use h₀ hkeeps hmade hstage⟩
  | spoiled p => exact Or.inr ⟨_, _, rfl, h.effect_release h₀ (by rw [hstage]; rfl)⟩
  | used p => exact Or.inr ⟨_, _, rfl, h.effect_release h₀ (by rw [hstage]; rfl)⟩
  | closed => exact Or.inl rfl

/-- The step. -/
theorem Tidy.advance (h : Tidy tasks runs made s₀ s) (h₀ : Start tasks runs s₀) {i : ι} {k : Nat}
    (hr : runs i k) (hkeeps : s.KeepsToSource tasks i k) (hmade : s.LeavesDirectory tasks i k → made i k) :
    Tidy tasks runs made s₀ (s.advance tasks i k) := by
  rcases h.advance_effect h₀ hr hkeeps hmade with hstay | ⟨w, stage, hput, he⟩
  · rw [hstay]
    exact h
  · rw [hput]
    exact he.tidy h₀ h

/-- The run. -/
theorem Tidy.run (h : Tidy tasks runs made s₀ s) (h₀ : Start tasks runs s₀) {schedule : List (ι × Nat)}
    (hschedule : ∀ r ∈ schedule, runs r.1 r.2)
    (hkeeps : ∀ x ∈ s.steps tasks schedule, x.1.KeepsToSource tasks x.2.1 x.2.2)
    (hmade : ∀ x ∈ s.steps tasks schedule, x.1.LeavesDirectory tasks x.2.1 x.2.2 → made x.2.1 x.2.2) :
    Tidy tasks runs made s₀ (s.run tasks schedule) := by
  induction schedule generalizing s with
  | nil => exact h
  | cons r schedule ih =>
    have hnext := h.advance h₀ (hschedule r List.mem_cons_self) (hkeeps _ List.mem_cons_self)
      (hmade _ List.mem_cons_self)
    exact ih hnext (fun r' hr' => hschedule r' (List.mem_cons_of_mem r hr'))
      (fun x hx => hkeeps x (List.mem_cons_of_mem _ hx))
      (fun x hx => hmade x (List.mem_cons_of_mem _ hx))

/-! ## Independence -/

end Invariant

namespace Sample

def task (behave : Unit → Launch → FileTree Unit → Conduct Unit) : Task Unit :=
  ⟨{ call .run none with behave := behave }, .normal, .ofMode .normal, rfl, rfl⟩

/-- Two processes whose clocks have stopped at the same time. -/
def system : System Bool Unit where
  files := files
  world i := { world with pid := if i then 8 else 7 }
  stage _ _ := .waiting

/-- The steps of two runs, one inside the other. -/
def schedule : List (Bool × Nat) :=
  [(false, 0), (true, 0), (true, 0), (false, 0), (false, 0), (true, 0), (true, 0), (false, 0)]

end Sample

namespace Sample

end Sample

end Conductor
