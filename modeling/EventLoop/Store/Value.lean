import EventLoop.Decimal.Nearest
import EventLoop.Decimal.Shortest
import EventLoop.Store.Error
import EventLoop.Text.Blank

/-!
# Values

A value has one of nine kinds.

* `Value.text` shows a value. A blob is shown by its size alone.
* `Value.ofText` reads a value of a given kind. Blanks around a number are ignored; a pointer is decimal,
  or has base sixteen after `0x` or `0X`; a blob or string is the text as it stands.
* `Value.int`, `Value.uint` and so on give the payload of a value of that very kind.
-/

namespace EventLoop

/-- A value with its kind. -/
inductive Value where
  | void
  | int (i : Int32)
  | uint (n : UInt32)
  | long (i : Int64)
  | ulong (n : UInt64)
  | double (x : Double)
  /-- An address or token that is only kept. -/
  | pointer (n : UInt64)
  | blob (bytes : List UInt8)
  | string (text : String)
  deriving DecidableEq, Inhabited

namespace Value

/-- The kind of a value. -/
def kind : Value → Kind
  | void => .void
  | int _ => .int
  | uint _ => .uint
  | long _ => .long
  | ulong _ => .ulong
  | double _ => .double
  | pointer _ => .pointer
  | blob _ => .blob
  | string _ => .string

/-! ## Text -/

/-- How a value is shown. -/
def text : Value → String
  | void => "(void)"
  | int i => Numeral.intText i.toInt
  | uint n => Numeral.natText n.toNat
  | long i => Numeral.intText i.toInt
  | ulong n => Numeral.natText n.toNat
  | double x => x.text
  | pointer n => String.ofList ('0' :: 'x' :: Numeral.digits 16 n.toNat)
  | blob bytes => "<" ++ Numeral.natText bytes.length ++ " bytes>"
  | string text => text

/-- An integer of a signed kind with `bits` bits. -/
def inSigned? (bits : Nat) (i : Int) : Option Int :=
  if -(Nat.pow 2 (bits - 1) : Int) ≤ i ∧ i < Nat.pow 2 (bits - 1) then some i else none

/-- A number of an unsigned kind with `bits` bits. -/
def inUnsigned? (bits n : Nat) : Option Nat :=
  if n < Nat.pow 2 bits then some n else none

/-- The address that a text without blanks around it stands for. -/
def address? : List Char → Option Nat
  | '0' :: 'x' :: rest => Numeral.natural? 16 rest
  | '0' :: 'X' :: rest => Numeral.natural? 16 rest
  | s => Numeral.natural? 10 s

/-- The value of a kind that a text stands for. -/
def ofText? (kind : Kind) (text : String) : Option Value :=
  let trimmed := Text.trim text.toList
  match kind with
  | .void => some void
  | .int => (Numeral.integer? trimmed).bind (inSigned? 32) |>.map fun i => int (Int32.ofInt i)
  | .uint => (Numeral.natural? 10 trimmed).bind (inUnsigned? 32) |>.map fun n => uint (UInt32.ofNat n)
  | .long => (Numeral.integer? trimmed).bind (inSigned? 64) |>.map fun i => long (Int64.ofInt i)
  | .ulong => (Numeral.natural? 10 trimmed).bind (inUnsigned? 64) |>.map fun n => ulong (UInt64.ofNat n)
  | .double => (Double.ofText? trimmed).map double
  | .pointer => (address? trimmed).bind (inUnsigned? 64) |>.map fun n => pointer (UInt64.ofNat n)
  | .blob => some (blob text.toUTF8.data.toList)
  | .string => some (string text)

/-- The value of a kind that a text stands for, or the complaint that it stands for none. -/
def ofText (kind : Kind) (text : String) : Except StoreError Value :=
  match ofText? kind text with
  | some value => .ok value
  | none => .error (.invalidText kind text)

theorem ofText_eq_ok_iff {kind : Kind} {text : String} {v : Value} :
    ofText kind text = .ok v ↔ ofText? kind text = some v := by
  unfold ofText
  cases ofText? kind text <;> simp

theorem ofText_eq_error_iff {kind : Kind} {text : String} {e : StoreError} :
    ofText kind text = .error e ↔ ofText? kind text = none ∧ e = .invalidText kind text := by
  unfold ofText
  cases ofText? kind text <;> simp [eq_comm]

/-! ## Payloads -/

/-- The complaint that a value is of another kind. -/
def mismatch {α : Type} (expected : Kind) (v : Value) : Except StoreError α :=
  .error (.kindMismatch expected v.kind)

/-- The payload of an int. -/
def asInt : Value → Except StoreError Int32
  | int i => .ok i
  | v => v.mismatch .int

/-- The payload of a uint. -/
def asUInt : Value → Except StoreError UInt32
  | uint n => .ok n
  | v => v.mismatch .uint

/-- The payload of a long. -/
def asLong : Value → Except StoreError Int64
  | long i => .ok i
  | v => v.mismatch .long

/-- The payload of a ulong. -/
def asULong : Value → Except StoreError UInt64
  | ulong n => .ok n
  | v => v.mismatch .ulong

/-- The payload of a double. -/
def asDouble : Value → Except StoreError Double
  | double x => .ok x
  | v => v.mismatch .double

/-- The payload of a pointer. -/
def asPointer : Value → Except StoreError UInt64
  | pointer n => .ok n
  | v => v.mismatch .pointer

/-- The payload of a blob. -/
def asBlob : Value → Except StoreError (List UInt8)
  | blob bytes => .ok bytes
  | v => v.mismatch .blob

/-- The payload of a string. -/
def asString : Value → Except StoreError String
  | string text => .ok text
  | v => v.mismatch .string

/-! ## Size -/

/-- The bytes that a value keeps in a buffer of its own; none for a value without one. -/
def bufferSize? : Value → Option Nat
  | blob bytes => some bytes.length
  | string text => some text.utf8ByteSize
  | _ => none

end Value

end EventLoop
