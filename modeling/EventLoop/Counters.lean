/-!
# Counters

Running totals of what a reactor has done. They are 64 bits wide and wrap.
-/

namespace EventLoop

/-- Why a callback was invoked. -/
inductive Cause where
  | readiness
  | deadline
  deriving DecidableEq

/-- Running totals of a reactor. -/
structure Counters where
  /-- Ticks that reached the wait. -/
  ticks : UInt64 := 0
  /-- Callbacks invoked. -/
  dispatched : UInt64 := 0
  /-- Callbacks invoked because of readiness. -/
  triggered : UInt64 := 0
  /-- Callbacks invoked because a deadline had passed. -/
  timeouts : UInt64 := 0
  /-- Failed clock reads and waits. -/
  errors : UInt64 := 0
  /-- Registrations accepted. -/
  registered : UInt64 := 0
  /-- Registrations withdrawn. -/
  cancelled : UInt64 := 0
  deriving DecidableEq, Inhabited

namespace Counters

/-- Counts a tick that reached the wait. -/
def tick (c : Counters) : Counters := { c with ticks := c.ticks + 1 }

/-- Counts a failed clock read or wait. -/
def error (c : Counters) : Counters := { c with errors := c.errors + 1 }

/-- Counts an accepted registration. -/
def register (c : Counters) : Counters := { c with registered := c.registered + 1 }

/-- Counts a withdrawn registration. -/
def cancel (c : Counters) : Counters := { c with cancelled := c.cancelled + 1 }

/-- Counts an invocation, by its cause. -/
def dispatch (c : Counters) : Cause → Counters
  | .readiness => { c with dispatched := c.dispatched + 1, triggered := c.triggered + 1 }
  | .deadline => { c with dispatched := c.dispatched + 1, timeouts := c.timeouts + 1 }

end Counters

end EventLoop
