import Conductor.Text.Blank
import Conductor.Text.Pieces
import Conductor.World.Environment

/-!
# Logging

What happens on the way is put down in log records, each with a level and the part of the program that
it comes from. Which records are shown on standard error is decided by a list of directives: the
directive for the longest beginning of the record's target counts, and its level is the last one shown.
-/

namespace Conductor

namespace Log

/-- How much a record matters, from the most to the least. -/
inductive Level where
  | error
  | warn
  | info
  | debug
  | trace
  deriving DecidableEq, Repr

namespace Level

def name : Level → String
  | .error => "ERROR"
  | .warn => "WARN"
  | .info => "INFO"
  | .debug => "DEBUG"
  | .trace => "TRACE"

def rank : Level → Nat
  | .error => 1
  | .warn => 2
  | .info => 3
  | .debug => 4
  | .trace => 5

end Level

structure Record where
  level : Level
  target : String
  message : String
  deriving DecidableEq, Repr

namespace Record

/-- A record without its target. -/
def brief (r : Record) : String :=
  r.level.name ++ " " ++ r.message

/-- A record as a line of standard error, behind a time stamp. The level has a width of five, and the
further lines of a message are indented. -/
def line (stamp : String) (r : Record) : String :=
  let level := r.level.name ++ (if r.level.name.length < 5 then " " else "")
  let message := r.message.toList.flatMap fun c =>
    if c = '\n' then ['\n', ' ', ' ', ' ', ' '] else [c]
  "[" ++ stamp ++ " " ++ level ++ " " ++ r.target ++ "] " ++ String.ofList message

end Record

/-! ## Directives -/

/-- The last level to show for the targets that begin with `target`, or for all targets; `none` shows
nothing. -/
structure Directive where
  target : Option String
  level : Option Level
  deriving DecidableEq, Repr

/-- What the targets begin with for which a directive is made. -/
def Directive.beginning (d : Directive) : String :=
  d.target.getD ""

def upper (s : String) : String :=
  String.ofList (s.toList.map Char.toUpper)

/-- The level that a word names, in capitals or not; `off` is a level below all. -/
def level? (s : String) : Option (Option Level) :=
  let s := upper s
  if s = "OFF" then some none
  else if s = "ERROR" then some (some .error)
  else if s = "WARN" then some (some .warn)
  else if s = "INFO" then some (some .info)
  else if s = "DEBUG" then some (some .debug)
  else if s = "TRACE" then some (some .trace)
  else none

/-- The text without white space at both ends. -/
def trimmed (s : List Char) : List Char :=
  ((s.dropWhile isBlankChar).reverse.dropWhile isBlankChar).reverse

/-- One directive: a level for all targets, a target for which everything is shown, or a target with a
level. Of anything else the part that is not understood is returned. -/
def directive (s : List Char) : Except String Directive :=
  match pieces '=' s with
  | [part] =>
    let part := String.ofList part
    match level? part with
    | some level => .ok ⟨none, level⟩
    | none => .ok ⟨some part, some .trace⟩
  | [target, level] =>
    let level := String.ofList (trimmed level)
    if level.isEmpty then .ok ⟨some (String.ofList target), some .trace⟩
    else match level? level with
      | some l => .ok ⟨some (String.ofList target), l⟩
      | none => .error level
  | _ => .error (String.ofList s)

/-- Which records are shown: the directives, and the parts of the specification that were not
understood. -/
structure Filter where
  directives : List Directive
  faults : List String
  deriving DecidableEq, Repr

namespace Filter

/-- Adds a directive, in place of the one for the same target if there is one. -/
def add (f : Filter) (d : Directive) : Filter :=
  if f.directives.any fun e => e.target == d.target then
    { f with directives := f.directives.map fun e => if e.target = d.target then d else e }
  else { f with directives := f.directives ++ [d] }

/-- The filter of a specification, which is a list of directives between commas. Without any of them
only errors are shown. -/
def parse (spec : String) : Filter :=
  let parts := ((pieces ',' spec.toList).map trimmed).filter fun p => ! p.isEmpty
  let filter := parts.foldl (fun (f : Filter) part => match directive part with
    | .ok d => f.add d
    | .error fault => { f with faults := f.faults ++ [fault] }) ⟨[], []⟩
  if filter.directives.isEmpty then { filter with directives := [⟨none, some .error⟩] } else filter

/-- The directive that counts for a target: the one for its longest beginning, and of two for the empty
beginning the last. -/
def best (f : Filter) (target : String) : Option Directive :=
  (f.directives.filter fun d => d.beginning.toList.isPrefixOf target.toList).foldl
    (fun best d => match best with
      | none => some d
      | some b => if b.beginning.length ≤ d.beginning.length then some d else some b) none

def shows (f : Filter) (r : Record) : Bool :=
  match f.best r.target with
  | some d => match d.level with
    | some level => r.level.rank ≤ level.rank
    | none => false
  | none => false

/-- The variable that holds a specification. -/
def variableName : String := "MOA_LOG"

/-- The filter of a process: what the environment says, and otherwise warnings, or everything but the
least for a verbose run. -/
def ofProcess (e : Environment) (verbose : Bool) : Filter :=
  match e.text? variableName with
  | some spec => parse spec
  | none => ⟨[⟨none, some (if verbose then .debug else .warn)⟩], []⟩

end Filter

end Log

end Conductor
