/-!
# Errors of the operating system

What goes wrong in dealings with the operating system: a numbered error with the text that the system
has for it, or a fault that was noticed before the system was asked.
-/

namespace Conductor

/-- Why a request to the operating system failed. -/
inductive SystemError where
  /-- An error that the system knows by number. -/
  | numbered (code : Int)
  /-- A fault in the request itself, in words. -/
  | worded (text : String)
  deriving DecidableEq, Repr

namespace SystemError

def notFound : SystemError := .numbered 2
def badExecutable : SystemError := .numbered 8
def noChild : SystemError := .numbered 10
def accessDenied : SystemError := .numbered 13
def fileExists : SystemError := .numbered 17
def notADirectory : SystemError := .numbered 20
def isADirectory : SystemError := .numbered 21
def tooManyOpenFiles : SystemError := .numbered 24
def fileTooLarge : SystemError := .numbered 27
def nameTooLong : SystemError := .numbered 36

/-- A path with a NUL cannot be handed to the system. -/
def nulInPath : SystemError := .worded "file name contained an unexpected NUL byte"

/-- Neither can a program name, an argument or a variable with a NUL. -/
def nulInCommand : SystemError := .worded "nul byte found in provided data"

/-- A file that was expected to be text is not. -/
def notText : SystemError := .worded "stream did not contain valid UTF-8"

/-- The system's text for an error number. -/
def text (code : Int) : String :=
  if code = 1 then "Operation not permitted"
  else if code = 2 then "No such file or directory"
  else if code = 5 then "Input/output error"
  else if code = 8 then "Exec format error"
  else if code = 10 then "No child processes"
  else if code = 13 then "Permission denied"
  else if code = 17 then "File exists"
  else if code = 20 then "Not a directory"
  else if code = 21 then "Is a directory"
  else if code = 24 then "Too many open files"
  else if code = 27 then "File too large"
  else if code = 28 then "No space left on device"
  else if code = 30 then "Read-only file system"
  else if code = 36 then "File name too long"
  else "Unknown error " ++ code.repr

def message : SystemError → String
  | .numbered code => text code ++ " (os error " ++ code.repr ++ ")"
  | .worded s => s

end SystemError

end Conductor
