import EventLoop.Reactor.Program

/-!
# Running programs

Callbacks run in the middle of a tick, and may themselves run ticks. So a run is a sequence of small steps of
a machine with a stack: what is suspended while a tick or the driver loop goes on, while a callback runs, and
while the loop waits for its tick. Every state between two operations is a state of the machine, in
particular the entry and the exit of each callback.

* `Machine.step` is one step, none when the program has ended.
* `Machine.run` makes at most a given number of steps. A callback that runs ticks without end never ends, so
  no number suffices for every program.

The driver loop counts its ticks in a natural number. By `Machine.count_fits_word` and `Machine.answer_fits_word` a
word of 64 bits tells the same, unless a loop without a limit goes on for `2 ^ 64` steps.
-/

namespace EventLoop

variable {σ α : Type}

/-- What is suspended. -/
inductive Frame (σ α : Type) where
  /-- A program that asked for a tick or for the driver loop. -/
  | caller (next : Except ReactorError Nat → Program σ α)
  /-- A tick that has invoked a number of callbacks, the last of which is running. -/
  | drain (served : Nat)
  /-- The driver loop, after a number of ticks and in the middle of one more. -/
  | driver (ticks : Nat) (maxTicks : Option UInt64)

/-- What happens next. -/
inductive Control (σ α : Type) where
  /-- A program goes on. -/
  | program (p : Program σ α)
  /-- A tick that has invoked a number of callbacks looks at the ready queue. -/
  | drain (served : Nat)
  /-- The driver loop decides, after a number of ticks. -/
  | driver (ticks : Nat) (maxTicks : Option UInt64)
  /-- A tick or the driver loop answers to what is suspended on top. -/
  | answer (result : Except ReactorError Nat)

/-- A system together with what happens next and what is suspended, innermost first. -/
structure Machine (σ α : Type) where
  system : System σ α
  control : Control σ α
  frames : List (Frame σ α)

namespace Machine

/-- A machine about to run a program. -/
def start (y : System σ α) (p : Program σ α) : Machine σ α :=
  { system := y, control := .program p, frames := [] }

/-! ## Steps -/

/-- Begins a tick on top of the given frames. -/
def beginTick (host : Host σ α) (y : System σ α) (frames : List (Frame σ α)) : Machine σ α :=
  match host.select y with
  | (.ok (), y) => { system := y, control := .drain 0, frames }
  | (.error e, y) => { system := y, control := .answer (.error e), frames }

/-- Takes the next notification off the ready queue and invokes its callback. -/
def stepDrain (host : Host σ α) (y : System σ α) (served : Nat) (frames : List (Frame σ α)) :
    Machine σ α :=
  match y.reactor.takeReady with
  | none => { system := y, control := .answer (.ok served), frames }
  | some (none, r) => { system := { y with reactor := r }, control := .drain served, frames }
  | some (some e, r) =>
    { system := host.report (Reactor.dispatchNotice e) { y with reactor := r }
      control := .program (host.callback e.callback e)
      frames := .drain (served + 1) :: frames }

/-- Ends the driver loop. -/
def endDrive (host : Host σ α) (y : System σ α) (ticks : Nat) (frames : List (Frame σ α)) :
    Machine σ α :=
  { system := host.report (Driver.endNotice ticks y.reactor.counters) y
    control := .answer (.ok ticks)
    frames }

/-- Has the driver loop made as many ticks as it may? -/
def isLimit (ticks : Nat) (maxTicks : Option UInt64) : Bool := maxTicks.any fun most => most.toNat ≤ ticks

/-- The driver loop ends when it is stopped or has made as many ticks as it may; otherwise it makes one
more. -/
def stepDriver (host : Host σ α) (y : System σ α) (ticks : Nat) (maxTicks : Option UInt64)
    (frames : List (Frame σ α)) : Machine σ α :=
  if host.stopped y.outside then endDrive host y ticks frames
  else if isLimit ticks maxTicks then
    endDrive host (host.report (Driver.limitNotice ticks) y) ticks frames
  else beginTick host y (.driver ticks maxTicks :: frames)

/-- The driver loop learns how its tick went. It goes on after an interrupted wait, and gives up after any
other error. -/
def afterTick (host : Host σ α) (y : System σ α) (ticks : Nat) (maxTicks : Option UInt64)
    (result : Except ReactorError Nat) (frames : List (Frame σ α)) : Machine σ α :=
  let y := host.report (Driver.tickNotice ticks result) y
  match result with
  | .ok _ => { system := y, control := .driver (ticks + 1) maxTicks, frames }
  | .error .interrupted => { system := y, control := .driver (ticks + 1) maxTicks, frames }
  | .error e => { system := y, control := .answer (.error e), frames }

/-- One operation of a program. -/
def stepProgram (host : Host σ α) (y : System σ α) (frames : List (Frame σ α)) :
    Program σ α → Option (Machine σ α)
  | .done =>
    match frames with
    | .drain served :: frames => some { system := y, control := .drain served, frames }
    | _ => none
  | .outside act next =>
    let s := act y.outside
    some { system := { y with outside := s }, control := .program (next s), frames }
  | .register request next =>
    let (result, y) := host.register y request
    some { system := y, control := .program (next result), frames }
  | .cancel h next =>
    let (result, y) := host.cancel y h
    some { system := y, control := .program (next result), frames }
  | .isPending h next => some { system := y, control := .program (next (y.reactor.isPending h)), frames }
  | .lookup d callback next =>
    some { system := y, control := .program (next (y.reactor.lookup d callback)), frames }
  | .status next => some { system := y, control := .program (next y.reactor.status), frames }
  | .tick next => some (beginTick host y (.caller next :: frames))
  | .drive maxTicks next =>
    some
      { system := host.report (Driver.startNotice maxTicks) y
        control := .driver 0 maxTicks
        frames := .caller next :: frames }

/-- One step; none when there is nothing left to do. -/
def step (host : Host σ α) (m : Machine σ α) : Option (Machine σ α) :=
  match m.control with
  | .program p => stepProgram host m.system m.frames p
  | .drain served => some (stepDrain host m.system served m.frames)
  | .driver ticks maxTicks => some (stepDriver host m.system ticks maxTicks m.frames)
  | .answer result =>
    match m.frames with
    | .caller next :: frames => some { m with control := .program (next result), frames }
    | .driver ticks maxTicks :: frames => some (afterTick host m.system ticks maxTicks result frames)
    | _ => none

/-- Is the driver loop about to make a tick? -/
def willTick (host : Host σ α) (m : Machine σ α) : Bool :=
  match m.control with
  | .driver ticks maxTicks => !host.stopped m.system.outside && !isLimit ticks maxTicks
  | _ => false

/-- Has the machine come to its end? -/
def isDone (host : Host σ α) (m : Machine σ α) : Bool := (m.step host).isNone

/-- The machine after at most a number of steps. -/
def run (host : Host σ α) : Nat → Machine σ α → Machine σ α
  | 0, m => m
  | fuel + 1, m =>
    match m.step host with
    | none => m
    | some m => run host fuel m

end Machine

end EventLoop
