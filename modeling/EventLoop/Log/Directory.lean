import EventLoop.Fault
import EventLoop.Text.Numeral
import EventLoop.Text.Pieces
import EventLoop.Text.Place

/-!
# The directory of a log

A log is a file in a directory, which is made if it is not there, with the directories on the way to it.
That fails where something stands in the way that is no directory, and for a path that the system does not
take. A point at the end of a path asks for what the path before it names: that is looked for, not made.

* `Location` is a place in the tree of files.
* `FileTree.makeDirectory` says what comes of making a directory.
* `FileTree.openLog` says what comes of opening the log in it.
-/

namespace EventLoop

/-! ## Paths -/

/-- The most bytes of a name. -/
def mostNameBytes : Nat := 255

/-- The most bytes of a path. -/
def mostPathBytes : Nat := 4095

/-- Does a path set out from the root? -/
def isAbsolute (path : List Char) : Bool := path.head? = some '/'

/-- The names in a path, from left to right. -/
def namesOfPath (path : List Char) : List (List Char) := (Text.piecesAt '/' path).filter (· ≠ [])

/-- The names in a path that lead somewhere else. -/
def stepsOfPath (path : List Char) : List (List Char) := (namesOfPath path).filter (· ≠ ['.'])

/-- Does a path end in a point, so that its directory is looked for and not made? -/
def endsInPoint (path : List Char) : Bool := (namesOfPath path).getLast? = some ['.']

/-- The path of the directory above, without the points on the way. -/
def pathAbove (path : List Char) : List Char :=
  let way := ['/'].intercalate (stepsOfPath path).dropLast
  if isAbsolute path then '/' :: way else way

/-- The path of a name in a directory. -/
def pathWithin (directory name : List Char) : List Char :=
  if directory = [] ∨ directory.getLast? = some '/' then directory ++ name
  else directory ++ '/' :: name

/-! ## Locations -/

/-- A place in the tree of files. -/
structure Location where
  /-- The names on the way from the root, the last one first. -/
  names : List (List Char) := []
  deriving DecidableEq

namespace Location

/-- The root of the tree. -/
def root : Location := {}

/-- Where a name leads from a directory. The root is its own directory above. -/
def enter (l : Location) (name : List Char) : Location :=
  if name = ['.', '.'] then ⟨l.names.tail⟩ else ⟨name :: l.names⟩

/-- The location that a path leads to from the root. -/
def ofPath (path : String) : Location := (stepsOfPath path.toList).foldl enter root

/-- Does a location lie in a directory, or is it that directory? -/
def isWithin (l directory : Location) : Bool := directory.names.isSuffixOf l.names

end Location

/-! ## Trees of files -/

/-- What stands at a location. -/
inductive Standing where
  | nothing
  | file
  | directory
  deriving DecidableEq

/-- The files and directories that are known. -/
structure FileTree where
  files : List Location
  directories : List Location
  /-- The names that lead to a directory elsewhere. -/
  links : List (Location × Location) := []
  /-- The directories that the system fills itself: nothing is made in them. -/
  sealedOff : List Location := []
  /-- The working directory. -/
  working : Location

namespace FileTree

/-- Where a name leads from a directory, along a link if the name is one. -/
def enter (t : FileTree) (l : Location) (name : List Char) : Location :=
  let l := l.enter name
  (t.links.lookup l).getD l

/-- What stands at a location. -/
def standing (t : FileTree) (l : Location) : Standing :=
  if t.files.contains l then .file
  else if l = .root || l = t.working || t.directories.contains l then .directory
  else .nothing

/-- Is a location one that the system fills itself? -/
def isSealed (t : FileTree) (l : Location) : Bool := t.sealedOff.any l.isWithin

/-- Where a path sets out. -/
def startOf (t : FileTree) (path : List Char) : Location :=
  if isAbsolute path then .root else t.working

/-- Looks for the directory that a name leads to. -/
def find (t : FileTree) (l : Location) (name : List Char) : Except Fault (FileTree × Location) :=
  if mostNameBytes < Text.byteCount name then .error .nameTooLong
  else
    let l := t.enter l name
    match t.standing l with
    | .nothing => .error .notThere
    | .file => .error .notDirectory
    | .directory => .ok (t, l)

/-- Makes the directory that a name leads to, unless it is there. -/
def make (t : FileTree) (l : Location) (name : List Char) : Except Fault (FileTree × Location) :=
  if mostNameBytes < Text.byteCount name then .error .nameTooLong
  else
    let l := t.enter l name
    match t.standing l with
    | .nothing =>
      if t.isSealed l then .error .notThere else .ok ({ t with directories := l :: t.directories }, l)
    | .file => .error .fileExists
    | .directory => .ok (t, l)

/-- Makes the directories that names lead to, one after the other. -/
def makeAlong (t : FileTree) (l : Location) : List (List Char) → Except Fault (FileTree × Location)
  | [] => .ok (t, l)
  | name :: rest =>
    match t.make l name with
    | .error fault => .error fault
    | .ok (t, l) => t.makeAlong l rest

/-- Makes the directory that a path names, and those on the way to it. Nothing is asked of the system for the
empty path and for the root. -/
def makeDirectory (t : FileTree) (path : List Char) : Except Fault (FileTree × Location) :=
  match (stepsOfPath path).getLast? with
  | none =>
    if path ≠ [] ∧ !isAbsolute path ∧ mostPathBytes < Text.byteCount path then .error .nameTooLong
    else .ok (t, t.startOf path)
  | some last =>
    if path.contains '\x00' then .error .nulInPath
    else if mostPathBytes < Text.byteCount path then .error .nameTooLong
    else
      match t.makeAlong (t.startOf path) (stepsOfPath path).dropLast with
      | .error fault => .error fault
      | .ok (t, l) =>
        if endsInPoint path then t.find l last else t.make l last

end FileTree

/-! ## The log -/

/-- Why there is no log. -/
inductive LogError where
  /-- Its directory cannot be made. -/
  | directory (fault : Fault)
  /-- It cannot be opened in its directory. -/
  | file (fault : Fault)
  deriving DecidableEq

/-- The name of the log of a day. -/
def logName (year month day : Nat) : List Char :=
  "tickloop.".toList ++ Numeral.padded 4 year ++ '-' :: Numeral.padded 2 month ++
    '-' :: Numeral.padded 2 day

/-- Opens a log with a name in a directory, which is made if need be. Answers where the directory is. -/
def FileTree.openLog (t : FileTree) (name : List Char) (directory : String) : Except LogError Location :=
  match t.makeDirectory directory.toList with
  | .error fault => .error (.directory fault)
  | .ok (t, l) =>
    if mostPathBytes < Text.byteCount (pathWithin directory.toList name) then .error (.file .nameTooLong)
    else if t.isSealed l then .error (.file .notThere)
    else .ok l

end EventLoop
