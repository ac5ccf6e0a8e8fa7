import Conductor.World.Basic

/-!
# Starting programs

A program is named by a path, or by a bare name that is looked up in the directories of the variable
`PATH`, one after the other. It is started with arguments and with the environment of the process, changed
by the variables that are set for it. It reads nothing, and both its streams go to one place, so what it
prints comes in the order in which it was written.
-/

namespace Conductor

namespace FileTree

variable {τ : Type}

/-- The program at a path. -/
def programAt (t : FileTree τ) (cwd : Option Place) (p : Path) : Except SystemError τ := do
  match ← t.find cwd p with
  | .file _ (.program p) => return p
  | .file _ .garbage => .error .badExecutable
  | .file _ .data => .error .accessDenied
  | .directory => .error .accessDenied

/-- The program of that name in the first of the directories that has one. A directory that has none is
passed over, and so is what cannot be started; but then that is what is reported in the end. -/
def searchProgram (t : FileTree τ) (cwd : Option Place) (name : String) (last : SystemError) :
    List Path → Except SystemError τ
  | [] => .error last
  | dir :: dirs =>
    match t.programAt cwd (Path.join dir name) with
    | .ok p => .ok p
    | .error e =>
      if e = .accessDenied ∨ e = .notFound ∨ e = .notADirectory then
        t.searchProgram cwd name (if last = .accessDenied then last else e) dirs
      else .error e

end FileTree

namespace World

variable {τ : Type}

/-- The variable that lists the directories of programs. -/
def searchVariable : String := "PATH"

/-- The octet that divides the directories. -/
def colon : UInt8 := 58

/-- The directories in which programs are looked up by name. An empty one is the working directory. -/
def searchPath (e : Environment) : List Path :=
  pieces colon ((e.get? searchVariable).getD (Utf8.encode "/bin:/usr/bin"))

/-- The program that a name stands for, in the environment that it is to be started in. -/
def findProgram (w : World τ) (e : Environment) (name : String) : Except SystemError τ :=
  if (Utf8.encode name).contains Path.slash then w.files.programAt w.cwd (Utf8.encode name)
  else if name = "" then .error .notFound
  else if Path.nameLimit < (Utf8.encode name).length then .error .nameTooLong
  else w.files.searchProgram w.cwd name .notFound (searchPath e)

/-- The content of the file that the last argument names. -/
def sourceOf (w : World τ) (args : List Bytes) : Option Bytes :=
  match args.getLast? with
  | some path => (w.contentOf path).toOption
  | none => none

/-- Lets a program run to its end. -/
def perform (w : World τ) (program : τ) (launch : Launch) : Conduct τ × World τ :=
  let w := w.record (.started launch program (w.sourceOf launch.args) w.files)
  let conduct := w.behave program launch w.files
  (conduct, { w with files := conduct.files }.record (.ended conduct.ending))

end World

namespace Conduct

variable {τ : Type}

/-- All that a program wrote, in order. -/
def output (c : Conduct τ) : Bytes :=
  c.writes.flatMap Prod.snd

/-- Why the process does not learn what came of the program. It reads first, but it looks at what came of
waiting before it looks at what came of reading. -/
def unlearned? (c : Conduct τ) : Option SystemError :=
  c.waitError.or c.readError

end Conduct

namespace Ending

def signalName? (n : Nat) : Option String :=
  ["SIGHUP", "SIGINT", "SIGQUIT", "SIGILL", "SIGTRAP", "SIGABRT", "SIGBUS", "SIGFPE", "SIGKILL",
    "SIGUSR1", "SIGSEGV", "SIGUSR2", "SIGPIPE", "SIGALRM", "SIGTERM", "SIGSTKFLT", "SIGCHLD",
    "SIGCONT", "SIGSTOP", "SIGTSTP", "SIGTTIN", "SIGTTOU", "SIGURG", "SIGXCPU", "SIGXFSZ",
    "SIGVTALRM", "SIGPROF", "SIGWINCH", "SIGIO", "SIGPWR", "SIGSYS"][n - 1]?

def text : Ending → String
  | .exited code => "exit status: " ++ code.repr
  | .signalled n =>
    match signalName? n with
    | some name => "signal: " ++ n.repr ++ " (" ++ name ++ ")"
    | none => "signal: " ++ n.repr

/-- The code of a program that was not killed. -/
def code? : Ending → Option Int
  | .exited code => some code
  | .signalled _ => none

end Ending

end Conductor
