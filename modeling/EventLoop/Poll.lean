import EventLoop.Events
import EventLoop.Fault

/-!
# Waiting for readiness

A wait is given one entry per descriptor, with the conditions asked for, and reports the conditions that
hold. Conditions are bits of a 16-bit word: three that can be asked for and three that are reported in
any case (error, hang-up, not open).

* `PollEntry.ofInterest` and `PollEntry.interest` turn a mask of events into conditions and back.
* `Conditions.fired` reads reported conditions as events. Error, hang-up and not open count as every event
  that can be waited for, so that whoever waits on the descriptor gets to see it.
* `waitBound` says how long a tick may wait.
* `Endpoint.report` says what the system reports of a stream.
-/

namespace EventLoop

/-! ## Conditions -/

/-- A set of conditions, one bit each. -/
structure Conditions where
  bits : UInt16
  deriving DecidableEq, Inhabited

namespace Conditions

/-- No condition. -/
def none : Conditions := ⟨0⟩

/-- Input is waiting. -/
def input : Conditions := ⟨1⟩

/-- Something urgent is waiting. -/
def urgent : Conditions := ⟨2⟩

/-- Output can be taken. -/
def output : Conditions := ⟨4⟩

/-- The descriptor has failed. -/
def error : Conditions := ⟨8⟩

/-- The other end has closed. -/
def hangUp : Conditions := ⟨16⟩

/-- The descriptor is not open. -/
def notOpen : Conditions := ⟨32⟩

/-- The conditions in either set. -/
def union (a b : Conditions) : Conditions := ⟨a.bits ||| b.bits⟩

/-- The conditions in both sets. -/
def inter (a b : Conditions) : Conditions := ⟨a.bits &&& b.bits⟩

instance : OrOp Conditions := ⟨union⟩
instance : AndOp Conditions := ⟨inter⟩

/-- Do the two sets share a condition? -/
def meets (a b : Conditions) : Bool := a.bits &&& b.bits ≠ 0

/-- The conditions that are reported whatever was asked. -/
def unasked : Conditions := error ||| hangUp ||| notOpen

/-- The conditions that a mask of events asks for. -/
def ofEvents (e : Events) : Conditions :=
  (if e.contains .read then input else none) |||
  (if e.contains .write then output else none) |||
  (if e.contains .except then urgent else none)

/-- The events that were asked for. -/
def toEvents (c : Conditions) : Events :=
  (if c.meets input then Events.read else .none) |||
  (if c.meets output then Events.write else .none) |||
  (if c.meets urgent then Events.except else .none)

/-- The events that reported conditions stand for. -/
def fired (c : Conditions) : Events :=
  if c.meets unasked then c.toEvents ||| .waitable else c.toEvents

end Conditions

/-! ## Entries -/

/-- What a wait is asked about one descriptor, and what it reported. -/
structure PollEntry where
  number : Int32
  asked : Conditions
  reported : Conditions := .none
  deriving DecidableEq

namespace PollEntry

/-- Asks for a mask of events on a descriptor. -/
def ofInterest (number : Int32) (interest : Events) : PollEntry :=
  { number, asked := .ofEvents interest }

/-- The events asked for. -/
def interest (p : PollEntry) : Events := p.asked.toEvents

/-- The events reported. -/
def fired (p : PollEntry) : Events := p.reported.fired

/-- The entry with exactly these events reported. -/
def setFired (p : PollEntry) (e : Events) : PollEntry := { p with reported := .ofEvents e }

/-- How a message shows an entry. -/
def text (p : PollEntry) : String :=
  "PollFd \x7b fd: " ++ Numeral.intText p.number.toInt ++ ", interest: " ++ p.interest.text ++
    ", fired: " ++ p.fired.text ++ " \x7d"

end PollEntry

/-! ## How long to wait -/

/-- The shortest finite wait, unless the settings say otherwise. It keeps near deadlines from turning
the loop into a busy one. -/
def defaultWaitFloor : Span := Span.ofMicros 1001

/-- How long a tick may wait, given the time that remains to the earliest deadline and whether any
descriptor is waited for. Without either the tick only looks; with a descriptor alone it waits as long
as it takes. A finite wait is never below the floor. -/
def waitBound (remaining : Option Span) (hasInterest : Bool) (floor : Span) : Option Span :=
  match remaining with
  | some remaining => some (remaining.max floor)
  | none => if hasInterest then none else some (Span.zero.max floor)

/-! ## What the system reports -/

/-- The state of one end of a connected pair of streams. -/
inductive Endpoint where
  | idle
  | readable
  | hangUp
  | hangUpReadable
  | notOpen
  | absent
  deriving DecidableEq

namespace Endpoint

/-- The conditions that hold of an endpoint, asked for or not. -/
def conditions : Endpoint → Conditions
  | idle => .output
  | readable => .input ||| .output
  | hangUp => .input ||| .output ||| .hangUp
  | hangUpReadable => .input ||| .output ||| .hangUp
  | notOpen => .notOpen
  | absent => .none

/-- The conditions that a wait reports of an endpoint: those asked for, and those never asked for. -/
def report (e : Endpoint) (asked : Conditions) : Conditions :=
  e.conditions &&& (asked ||| .unasked)

end Endpoint

end EventLoop
