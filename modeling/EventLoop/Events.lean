import EventLoop.Time.Instant
import EventLoop.Text.Numeral

/-!
# Events, descriptors and timeouts

The vocabulary that the reactor shares with its callers.

* A mask of events says what a notification waits for, or why it fired.
* A descriptor is what a notification is attached to.
* A timeout says how long it waits at most.
-/

namespace EventLoop

/-! ## Masks of events -/

/-- A set of events, one bit each. Bits without a name are carried along. -/
structure Events where
  bits : UInt32
  deriving DecidableEq

namespace Events

/-- No event. -/
def none : Events := ⟨0⟩

/-- Something can be read. -/
def read : Events := ⟨1⟩

/-- Something can be written. -/
def write : Events := ⟨2⟩

/-- Something exceptional has happened. -/
def except : Events := ⟨4⟩

/-- The deadline has passed. A wait never asks for it. -/
def timeout : Events := ⟨8⟩

/-- What a wait can ask for. -/
def waitable : Events := ⟨7⟩

instance : Inhabited Events := ⟨none⟩

/-- The events in either mask. -/
def union (a b : Events) : Events := ⟨a.bits ||| b.bits⟩

/-- The events in both masks. -/
def inter (a b : Events) : Events := ⟨a.bits &&& b.bits⟩

/-- Is every event of the second mask in the first? -/
def contains (a b : Events) : Bool := a.bits &&& b.bits = b.bits

/-- Does the mask hold no event? -/
def isEmpty (a : Events) : Bool := a.bits = 0

instance : OrOp Events := ⟨union⟩
instance : AndOp Events := ⟨inter⟩

/-- The named events, in the order in which they are listed. -/
def named : List (Events × String) :=
  [(read, "READ"), (write, "WRITE"), (except, "EXCEPT"), (timeout, "TIMEOUT")]

/-- How a message shows a mask: the names, then the bits without a name in base sixteen. -/
def text (a : Events) : String :=
  let names := (named.filter fun e => a.contains e.1).map Prod.snd
  let rest := a.bits &&& 0xFFFFFFF0
  let extra :=
    if rest = 0 then []
    else [String.ofList ('0' :: 'x' :: Numeral.digits 16 rest.toNat)]
  match names ++ extra with
  | [] => "Events(0x0)"
  | parts => "Events(" ++ " | ".intercalate parts ++ ")"

end Events

/-! ## Descriptors -/

/-- What a notification is attached to: nothing but time, or an open file. -/
inductive Descriptor where
  | timer
  | fd (number : Int32)
  deriving DecidableEq

namespace Descriptor

instance : Inhabited Descriptor := ⟨timer⟩

/-- The number of the open file. -/
def number? : Descriptor → Option Int32
  | timer => none
  | fd n => some n

/-- The name of a descriptor. -/
def text : Descriptor → String
  | timer => "timer"
  | fd n => "fd:" ++ Numeral.intText n.toInt

/-- How a message shows a descriptor as a value. -/
def detail : Descriptor → String
  | timer => "Timer"
  | fd n => "Fd(" ++ Numeral.intText n.toInt ++ ")"

end Descriptor

/-! ## Timeouts -/

/-- How long a notification waits at most. -/
inductive Timeout where
  | infinite
  | after (delay : Span)
  deriving DecidableEq

namespace Timeout

/-- Due at the very next tick. -/
def zero : Timeout := after .zero

/-- A timeout of seconds and microseconds. The greatest number of seconds stands for no timeout. -/
def ofParts (secs micros : UInt64) : Timeout :=
  if secs = 18446744073709551615 then infinite
  else after (Span.ofSecs secs + Span.ofMicros micros)

/-- The delay of a finite timeout. -/
def delay? : Timeout → Option Span
  | infinite => none
  | after d => some d

end Timeout

end EventLoop
