/-!
# Faults of the system

What an operation of the operating system reports when it fails: a text, and whether a signal merely
interrupted it.
-/

namespace EventLoop

/-- A failed operation of the operating system. -/
structure Fault where
  interrupted : Bool
  text : String
  deriving DecidableEq, Inhabited

namespace Fault

/-- A failure that is no interruption. -/
def failure (text : String) : Fault := { interrupted := false, text }

/-- A path names a directory where a file was asked for. -/
def isDirectory : Fault := failure "Is a directory (os error 21)"

/-- A file holds bytes that are no text. -/
def notText : Fault := failure "stream did not contain valid UTF-8"

/-- Nothing stands where a path leads, nor can it be made. -/
def notThere : Fault := failure "No such file or directory (os error 2)"

/-- Something else than a directory has the name of a directory. -/
def fileExists : Fault := failure "File exists (os error 17)"

/-- A path goes through something else than a directory. -/
def notDirectory : Fault := failure "Not a directory (os error 20)"

/-- A name or a path has too many bytes. -/
def nameTooLong : Fault := failure "File name too long (os error 36)"

/-- A path holds the character that ends the paths of the system. -/
def nulInPath : Fault := failure "file name contained an unexpected NUL byte"

end Fault

end EventLoop
