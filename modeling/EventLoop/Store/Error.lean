import EventLoop.Pool
import EventLoop.Store.Kind
import EventLoop.Text.Quoted

/-!
# What can go wrong with stored values
-/

namespace EventLoop

/-- Why an operation on values or on a store fails. -/
inductive StoreError where
  | outOfMemory
  /-- No kind has this number. -/
  | unknownTag (tag : UInt32)
  /-- No kind has this name. -/
  | unknownName (name : String)
  /-- The value is of another kind. -/
  | kindMismatch (expected found : Kind)
  /-- The text writes no value of the kind. -/
  | invalidText (kind : Kind) (text : String)
  /-- A value was to be stored under no key. -/
  | missingKey
  deriving DecidableEq

namespace StoreError

/-- The message of a store error. -/
def message : StoreError → String
  | outOfMemory => "out of memory"
  | unknownTag tag => "invalid type tag: " ++ Numeral.natText tag.toNat
  | unknownName name => "unknown type name: " ++ name
  | kindMismatch expected found =>
    "type mismatch: expected " ++ expected.name ++ ", found " ++ found.name
  | invalidText kind text => "invalid " ++ kind.name ++ " value: " ++ Text.quoted text
  | missingKey => "a value other than void needs a key"

/-- The store's view of a pool that cannot grow. -/
def ofPool : PoolError → StoreError
  | .outOfMemory => outOfMemory

end StoreError

/-- The kind with a number, or the complaint that there is none. -/
def Kind.ofTag (tag : UInt32) : Except StoreError Kind :=
  match ofTag? tag with
  | some kind => .ok kind
  | none => .error (.unknownTag tag)

/-- The kind with a name, or the complaint that there is none. -/
def Kind.ofName (name : String) : Except StoreError Kind :=
  match ofName? name.toList with
  | some kind => .ok kind
  | none => .error (.unknownName name)

end EventLoop
