import Conductor.World.Basic

/-!
# Scripted programs

A program that does a few fixed things, in this order: it writes, shows the file that its last argument
names, creates files, deletes the file that its last argument names, and ends. What it cannot do, it
leaves.
-/

namespace Conductor

structure Script where
  writes : List (Stream × Bytes)
  showsSource : Bool
  creates : List Path
  deletesSource : Bool
  ending : Ending
  deriving DecidableEq, Repr

namespace Script

variable {τ : Type}

/-- The files after the script created its own. -/
def create (s : Script) (cwd : Option Place) (files : FileTree τ) : FileTree τ :=
  s.creates.foldl (fun files p => (files.write cwd p [] .data).toOption.getD files) files

/-- The files without the one that the last argument names. -/
def delete (launch : Launch) (files : FileTree τ) : FileTree τ :=
  match launch.args.getLast? with
  | some p => (files.remove launch.cwd p).toOption.getD files
  | none => files

/-- What a script does. -/
def conduct (s : Script) (launch : Launch) (files : FileTree τ) : Conduct τ :=
  let source := match launch.args.getLast? with
    | some p => ((files.read launch.cwd p).toOption.getD [])
    | none => []
  let created := s.create launch.cwd files
  { writes := s.writes ++ if s.showsSource then [(.output, source)] else []
    ending := s.ending
    files := if s.deletesSource then delete launch created else created
    waitError := none
    readError := none }

end Script

end Conductor
