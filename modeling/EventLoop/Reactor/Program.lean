import EventLoop.Reactor.Report

/-!
# Programs on a reactor, and what surrounds it

A callback is a program: it may act on its surroundings and call every operation of the reactor, the tick
included, one after another, each depending on the answers so far. The code that owns the reactor is such a
program too, and may also run the driver loop.

What surrounds a reactor (`Host`) is described by functions on a state of its own: its clock, its way to
wait, the memory it grants, where notices go, the stop signal, and the programs of the callbacks. Everything
that comes from outside is thus an argument.
-/

namespace EventLoop

variable {σ α : Type}

/-- Code that uses a reactor, with surroundings in a state of type `σ`. -/
inductive Program (σ α : Type) : Type where
  | done
  /-- Acts on the surroundings, and sees them. -/
  | outside (act : σ → σ) (next : σ → Program σ α)
  /-- Registers a notification. -/
  | register (request : Request α) (next : Except ReactorError Handle → Program σ α)
  /-- Withdraws a notification. -/
  | cancel (h : Handle) (next : Except ReactorError Unit → Program σ α)
  /-- Asks whether a notification is still to be dispatched. -/
  | isPending (h : Handle) (next : Bool → Program σ α)
  /-- Asks for the first notification of a descriptor with a callback. -/
  | lookup (d : Descriptor) (callback : Callback) (next : Option Handle → Program σ α)
  /-- Asks for the status of the reactor. -/
  | status (next : Reactor.Status → Program σ α)
  /-- Runs one tick, and goes on with the number of callbacks it invoked. -/
  | tick (next : Except ReactorError Nat → Program σ α)
  /-- Runs the driver loop, and goes on with the number of its ticks. -/
  | drive (maxTicks : Option UInt64) (next : Except ReactorError Nat → Program σ α)

namespace Program

/-- Acts on the surroundings without looking at them. -/
def act (f : σ → σ) (next : Program σ α) : Program σ α := outside f fun _ => next

/-- One program after another. -/
def andThen : Program σ α → Program σ α → Program σ α
  | done, q => q
  | outside f next, q => outside f fun s => (next s).andThen q
  | register request next, q => register request fun r => (next r).andThen q
  | cancel h next, q => cancel h fun r => (next r).andThen q
  | isPending h next, q => isPending h fun r => (next r).andThen q
  | lookup d callback next, q => lookup d callback fun r => (next r).andThen q
  | status next, q => status fun r => (next r).andThen q
  | tick next, q => tick fun r => (next r).andThen q
  | drive maxTicks next, q => drive maxTicks fun r => (next r).andThen q

end Program

/-- What surrounds a reactor. -/
structure Host (σ α : Type) where
  /-- The reservations granted at present. -/
  memory : σ → Memory
  /-- Reads the clock. -/
  now : σ → Except Fault Instant × σ
  /-- Waits for what the entries ask, or until the time is up; reports on each entry in order. -/
  wait : List PollEntry → Option Span → σ → Except Fault (List Conditions) × σ
  /-- Takes a notice. -/
  notify : Notice → σ → σ
  /-- Has the stop signal been given? -/
  stopped : σ → Bool
  /-- What a callback does. -/
  callback : Callback → Event α → Program σ α

/-- A reactor in its surroundings. -/
structure System (σ α : Type) where
  reactor : Reactor α
  outside : σ

namespace Host

/-- The system after a notice. -/
def report (host : Host σ α) (n : Notice) (y : System σ α) : System σ α :=
  { y with outside := host.notify n y.outside }

/-- Counts a failed clock read or wait. -/
def countError (y : System σ α) : System σ α :=
  { y with reactor := { y.reactor with counters := y.reactor.counters.error } }

/-! ## Operations on the system -/

/-- Reads the clock. A failure is counted and reported. -/
def readClock (host : Host σ α) (y : System σ α) : Except ReactorError Instant × System σ α :=
  match host.now y.outside with
  | (.ok t, s) => (.ok t, { y with outside := s })
  | (.error fault, s) =>
    (.error (.clock fault), host.report (Reactor.clockNotice fault) (countError { y with outside := s }))

/-- The instant at which a request made now is due. The clock is read only if there is a timeout. -/
def dueTime (host : Host σ α) (y : System σ α) :
    Timeout → Except ReactorError (Option Instant) × System σ α
  | .infinite => (.ok none, y)
  | .after delay =>
    match host.readClock y with
    | (.ok t, y) => (.ok (some (t + delay)), y)
    | (.error e, y) => (.error e, y)

/-- Registers a notification. -/
def register (host : Host σ α) (y : System σ α) (request : Request α) :
    Except ReactorError Handle × System σ α :=
  match host.dueTime y request.timeout with
  | (.error e, y) => (.error e, y)
  | (.ok due, y) =>
    match y.reactor.arm (host.memory y.outside) request due with
    | (.ok h, r) => (.ok h, host.report (Reactor.registeredNotice request due) { y with reactor := r })
    | (.error e, r) => (.error e, { y with reactor := r })

/-- Withdraws a notification. -/
def cancel (host : Host σ α) (y : System σ α) (h : Handle) : Except ReactorError Unit × System σ α :=
  match y.reactor.cancel h with
  | (.ok (), r) => (.ok (), host.report (Reactor.cancelledNotice h) { y with reactor := r })
  | (.error e, r) => (.error e, { y with reactor := r })

/-- Can a tick reserve what it may need? -/
def hasRoom (host : Host σ α) (y : System σ α) : Bool :=
  (host.memory y.outside).grants .waits (y.reactor.active.length * Handle.bytes) &&
    (host.memory y.outside).grants .ready (y.reactor.pending * Handle.bytes)

/-- The time that remains until a deadline. The clock is read only if there is one. -/
def remaining (host : Host σ α) (y : System σ α) :
    Option Instant → Except ReactorError (Option Span) × System σ α
  | none => (.ok none, y)
  | some due =>
    match host.readClock y with
    | (.ok t, y) => (.ok (some (due.since t)), y)
    | (.error e, y) => (.error e, y)

/-- Waits, and counts the tick. A failure is counted and reported. -/
def await (host : Host σ α) (y : System σ α) (entries : List PollEntry) (timeout : Option Span) :
    Except ReactorError (List Conditions) × System σ α :=
  let r := { y.reactor with counters := y.reactor.counters.tick }
  let s := host.notify (Reactor.waitingNotice entries timeout) y.outside
  match host.wait entries timeout s with
  | (.ok reported, s) => (.ok reported, { reactor := r, outside := s })
  | (.error fault, s) =>
    (.error (.ofWait fault),
      host.report (Reactor.waitFailedNotice fault) (countError { reactor := r, outside := s }))

/-- The first part of a tick: waits for readiness or the earliest deadline, and moves what is selected to
the ready queue. When it fails, nothing is selected. -/
def select (host : Host σ α) (y : System σ α) : Except ReactorError Unit × System σ α :=
  if host.hasRoom y then
    let entries := y.reactor.pollSet
    match host.remaining (host.report (Reactor.pollSetNotice y.reactor) y) y.reactor.earliest with
    | (.error e, y) => (.error e, y)
    | (.ok left, y) =>
      match host.await y entries (waitBound left (!entries.isEmpty) y.reactor.floor) with
      | (.error e, y) => (.error e, y)
      | (.ok reported, y) =>
        match host.readClock y with
        | (.error e, y) => (.error e, y)
        | (.ok now, y) => (.ok (), { y with reactor := y.reactor.collect reported now })
  else (.error .outOfMemory, y)

end Host

end EventLoop
