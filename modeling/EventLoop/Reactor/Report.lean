import EventLoop.Log.Notice
import EventLoop.Reactor.Tick

/-!
# What a reactor reports

The notices of a reactor and of the loop that drives it, by occasion.
-/

namespace EventLoop

namespace Reactor

variable {α : Type}

/-- A notice of the reactor. -/
def notice (level : Level) (message : String) : Notice := { level, target := .reactor, message }

/-- A notification was taken on. -/
def registeredNotice (request : Request α) (due : Option Instant) : Notice :=
  notice .trace
    ("registered " ++ request.descriptor.text ++ " interest=" ++ (request.interest &&& .waitable).text ++
      " due=" ++ optionText Instant.text due)

/-- A notification was withdrawn. -/
def cancelledNotice (h : Handle) : Notice :=
  notice .trace ("cancelled EventHandle(" ++ h.text ++ ")")

/-- The clock could not be read. -/
def clockNotice (fault : Fault) : Notice :=
  notice .error ("Failed to read monotonic clock: " ++ fault.text)

/-- The greatest descriptor number in a wait. -/
def greatestNumber (entries : List PollEntry) : Option Int32 :=
  entries.foldl
    (fun best e =>
      match best with
      | none => some e.number
      | some n => some (if n ≤ e.number then e.number else n))
    none

/-- The wait has been prepared. -/
def pollSetNotice (r : Reactor α) : Notice :=
  notice .trace
    ("poll set: " ++ Numeral.natText r.active.length ++ " groups, max fd " ++
      optionText (fun n => Numeral.intText n.toInt) (greatestNumber r.pollSet) ++
      ", earliest due " ++ optionText Instant.text r.earliest)

/-- The wait begins. -/
def waitingNotice (entries : List PollEntry) (timeout : Option Span) : Notice :=
  notice .trace
    ("waiting on " ++ Numeral.natText entries.length ++ " descriptors for " ++
      optionText Span.text timeout)

/-- The wait failed. -/
def waitFailedNotice (fault : Fault) : Notice :=
  if fault.interrupted then notice .debug "Interrupted while waiting for IO"
  else notice .error ("Failed to wait IO: " ++ fault.text)

/-- A callback is about to be invoked. -/
def dispatchNotice (e : Event α) : Notice :=
  notice .trace ("dispatch " ++ e.descriptor.text ++ " " ++ e.triggered.text)

/-- The reactor is given up. -/
def teardownNotice (s : Status) : Notice :=
  notice .debug
    ("teardown: " ++ Numeral.natText s.activeGroups ++ " groups (" ++
      Numeral.natText s.spareGroups ++ " spare), " ++
      Numeral.natText s.pending ++ " notifications (" ++
      Numeral.natText s.spareNotifications ++ " spare)")

end Reactor

/-! ## The driver loop -/

namespace Driver

/-- A notice of the driver loop. -/
def notice (level : Level) (message : String) : Notice := { level, target := .driver, message }

/-- The loop begins. -/
def startNotice (maxTicks : Option UInt64) : Notice :=
  notice .info
    ("Starting driver loop (max_ticks=" ++ optionText (fun n => Numeral.natText n.toNat) maxTicks ++ ")")

/-- The loop has made as many ticks as it may. -/
def limitNotice (ticks : Nat) : Notice :=
  notice .info ("Tick limit " ++ Numeral.natText ticks ++ " reached")

/-- How a tick of the loop went. -/
def tickNotice (ticks : Nat) : Except ReactorError Nat → Notice
  | .ok count =>
    notice .trace ("tick " ++ Numeral.natText ticks ++ " dispatched " ++ Numeral.natText count)
  | .error .interrupted =>
    notice .debug ("tick " ++ Numeral.natText ticks ++ " interrupted, continuing")
  | .error e =>
    notice .error ("Reactor failed on tick " ++ Numeral.natText ticks ++ ": " ++ e.message)

/-- The loop has ended. -/
def endNotice (ticks : Nat) (c : Counters) : Notice :=
  notice .info
    ("Driver loop finished after " ++ Numeral.natText ticks ++ " ticks (" ++
      Numeral.natText c.dispatched.toNat ++ " dispatched, " ++ Numeral.natText c.errors.toNat ++
      " errors)")

end Driver

end EventLoop
