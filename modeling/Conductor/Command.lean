import Conductor.Text.Pieces

/-!
# Commands

What the user asks for. A command is picked by the first argument; whatever is not known is a request
for help. Three commands are local: their output hangs on the arguments alone. The others need program
text or the toolchain.
-/

namespace Conductor

/-- The platform to build for, as far as the user named it. -/
structure Target where
  os : Option String
  arch : Option String
  deriving DecidableEq, Repr

namespace Target

/-- The environment variables that tell the toolchain about the target. -/
def settings (t : Target) : List (String × String) :=
  t.os.toList.map (("GOOS", ·)) ++ t.arch.toList.map (("GOARCH", ·))

end Target

inductive Command where
  | build (target : Target)
  | run
  | test
  | repl (args : List String)
  | version
  | goVersion
  | help
  deriving DecidableEq, Repr

namespace Command

/-- The command of an argument list, in which the flags stand no longer. -/
def parse : List String → Command
  | [] => .help
  | first :: args =>
    if first = "build" then .build ⟨args[0]?, args[1]?⟩
    else if first = "run" then .run
    else if first = "test" then .test
    else if first = "repl" then .repl args
    else if first = "version" then .version
    else if first = "go-version" then .goVersion
    else .help

def name : Command → String
  | .build _ => "build"
  | .run => "run"
  | .test => "test"
  | .repl _ => "repl"
  | .version => "version"
  | .goVersion => "go-version"
  | .help => "help"

end Command

/-! ## What the program says about itself -/

/-- The file that a build leaves behind. -/
def artifactName : String := "a.out"

def usage : String :=
  "Moa is a programming language

Usage: moa <command> [...arguments]

Commands:
  moa build [os] [arch]    compile to an executable file
  moa repl                 start a REPL session
  moa run                  execute the program
  moa test                 run tests
  moa version              display Moa version
  moa go-version           display the Go toolchain version

Flags:
  --json                   print results as JSON
  --verbose                log pipeline steps to stderr"

namespace Platform

/-- The toolchain's name for an operating system. -/
def osName (s : String) : String :=
  if s = "macos" then "darwin" else s

/-- The toolchain's name for a processor architecture. -/
def archName (s : String) : String :=
  if s = "x86_64" then "amd64"
  else if s = "x86" then "386"
  else if s = "aarch64" then "arm64"
  else if s = "powerpc64" then "ppc64"
  else s

end Platform

/-- The line that names the program, its version and the platform it runs on. -/
def versionLine : String :=
  "moa v0.0.1 " ++ Platform.osName "linux" ++ "/" ++ Platform.archName "x86_64"

namespace Command

/-- The output of a local command. -/
def localOutput? : Command → Option String
  | .repl [] => some "repl not implemented yet\n"
  | .repl args => some ("repl not implemented yet : " ++ joined " " args ++ "\n")
  | .version => some (versionLine ++ "\n")
  | .help => some (usage ++ "\n")
  | .build _ => none
  | .run => none
  | .test => none
  | .goVersion => none

end Command

end Conductor
