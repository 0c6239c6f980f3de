/-!
# Kinds of values

The nine kinds of values that a store can be asked to hold, with their numbers and names. The kind `void`
stands for no value.
-/

namespace EventLoop

/-- The kind of a value. -/
inductive Kind where
  | void
  | int
  | uint
  | long
  | ulong
  | double
  | pointer
  | blob
  | string
  deriving DecidableEq, Repr, Inhabited

namespace Kind

/-- All kinds in the order of their tags. -/
def all : List Kind := [void, int, uint, long, ulong, double, pointer, blob, string]

/-- The number of a kind. -/
def tag : Kind → UInt32
  | void => 0
  | int => 1
  | uint => 2
  | long => 3
  | ulong => 4
  | double => 5
  | pointer => 6
  | blob => 7
  | string => 8

/-- The name of a kind. -/
def name : Kind → String
  | void => "void"
  | int => "int"
  | uint => "uint"
  | long => "long"
  | ulong => "ulong"
  | double => "double"
  | pointer => "pointer"
  | blob => "blob"
  | string => "string"

/-- The kind with a number. -/
def ofTag? (tag : UInt32) : Option Kind := all[tag.toNat]?

/-- The kind with a name, in any mix of capital and small ASCII letters. -/
def ofName? (name : List Char) : Option Kind :=
  all.find? fun k => k.name.toList = name.map Char.toLower

end Kind

end EventLoop
