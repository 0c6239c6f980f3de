import EventLoop.Reactor.Machine

/-!
# Scenarios

A scenario plays a reactor through a fixed script: callbacks are lists of actions, the clock stands still
until it is told to advance, and the outcomes of the waits are queued in advance. Handles are named by the
order of the registrations that made them.

This module holds the vocabulary: actions, replies, and the surroundings that the script keeps.
-/

namespace EventLoop.Scenario

/-! ## The script -/

/-- How much time a wait takes. -/
inductive Elapse where
  | nothing
  /-- The whole time that was asked for, nothing for a wait without end. -/
  | asked
  | span (d : Span)

/-- What one wait brings: the time it takes, then a failure or the conditions of some descriptors. -/
structure Outcome where
  elapse : Elapse
  result : Except Fault (List (Int32 × Conditions))

/-- The coming clock reads: some succeed, then some fail, and all later ones succeed. -/
structure ClockPlan where
  succeed : Nat := 0
  fail : Nat := 0
  text : String := ""

/-- One thing to do, at the top or in a callback. -/
inductive Action where
  | register (d : Descriptor) (callback : Callback) (arg : Int) (interest : Events) (timeout : Timeout)
  /-- Registers the event of the running callback again. -/
  | rearm (interest : Events) (timeout : Timeout)
  | cancel (n : Nat)
  | isPending (n : Nat)
  | lookup (d : Descriptor) (callback : Callback)
  | tick
  | counters
  | describe
  | floor
  | status
  | advance (d : Span)
  | planClock (plan : ClockPlan)
  | queue (outcome : Outcome)
  | stop

/-- An action of a callback. It may be limited to the first invocations of the callback. -/
structure Step where
  action : Action
  upTo : Option Nat := none

/-- The actions of every callback, by identity. -/
abbrev Script := List (List Step)

/-! ## Replies -/

/-- What an action gives. -/
inductive Reply where
  | done
  | handle (h : Handle)
  | noHandle
  | noEvent
  | failed (e : ReactorError)
  | flag (b : Bool)
  | found (h : Option Handle)
  | count (n : Nat)
  | counters (c : Counters)
  | text (s : String)
  | floor (d : Span)
  | status (s : Reactor.Status)
  | time (t : Instant)

/-- The reply to an operation that gives nothing. -/
def Reply.ofUnit : Except ReactorError Unit → Reply
  | .ok () => done
  | .error e => failed e

/-- The reply to an operation that gives a number. -/
def Reply.ofCount : Except ReactorError Nat → Reply
  | .ok n => count n
  | .error e => failed e

/-! ## The surroundings -/

/-- One wait that was asked for. -/
structure Wait where
  timeout : Option Span
  entries : List PollEntry

/-- One invocation of a callback. -/
structure Firing where
  event : Event Int
  /-- The length of the ready queue at its entry. -/
  ready : Nat
  /-- The replies to its actions. -/
  replies : List Reply := []

/-- What surrounds a scenario's reactor. -/
structure Outside where
  clock : Instant
  plan : ClockPlan := {}
  outcomes : List Outcome := []
  /-- The handles of all registrations so far, in order. -/
  handles : Array Handle := #[]
  /-- The callbacks invoked so far. -/
  invoked : List Callback := []
  stopped : Bool := false
  /-- The waits, invocations and notices of the present step. -/
  waits : Array Wait := #[]
  firings : Array Firing := #[]
  notices : Array Notice := #[]
  /-- The reply to the present step. -/
  reply : Option Reply := none

namespace Outside

/-- Makes room for the record of a new step. -/
def turnPage (s : Outside) : Outside := { s with waits := #[], firings := #[], notices := #[], reply := none }

/-- Reads the clock by the plan. -/
def readClock (s : Outside) : Except Fault Instant × Outside :=
  match s.plan.succeed, s.plan.fail with
  | n + 1, _ => (.ok s.clock, { s with plan := { s.plan with succeed := n } })
  | 0, n + 1 => (.error (.failure s.plan.text), { s with plan := { s.plan with fail := n } })
  | 0, 0 => (.ok s.clock, s)

/-- How far the clock goes on during a wait. -/
def elapsed (timeout : Option Span) : Elapse → Span
  | .nothing => .zero
  | .asked => timeout.getD .zero
  | .span d => d

/-- The conditions listed for a descriptor. -/
def conditionsOf (listed : List (Int32 × Conditions)) (e : PollEntry) : Conditions :=
  (listed.filter fun p => p.1 = e.number).foldl (fun c p => c ||| p.2) .none

/-- Waits by the next outcome. Without one nothing is ready and no time passes. -/
def wait (entries : List PollEntry) (timeout : Option Span) (s : Outside) :
    Except Fault (List Conditions) × Outside :=
  let s := { s with waits := s.waits.push { timeout, entries } }
  match s.outcomes with
  | [] => (.ok (entries.map fun _ => .none), s)
  | o :: rest =>
    let s := { s with outcomes := rest, clock := s.clock + elapsed timeout o.elapse }
    match o.result with
    | .error fault => (.error fault, s)
    | .ok listed => (.ok (entries.map (conditionsOf listed)), s)

/-- Waits on files of which none is open. -/
def waitOnNothing (entries : List PollEntry) (s : Outside) : Except Fault (List Conditions) × Outside :=
  let endpoint (e : PollEntry) : Endpoint := if e.number < 0 then .absent else .notOpen
  (.ok (entries.map fun e => (endpoint e).report e.asked), s)

/-- Records a handle. -/
def addHandle (h : Handle) (s : Outside) : Outside := { s with handles := s.handles.push h }

/-- Records an invocation. -/
def addFiring (e : Event Int) (ready : Nat) (s : Outside) : Outside :=
  { s with firings := s.firings.push { event := e, ready }, invoked := e.callback :: s.invoked }

/-- Records a reply in an invocation. -/
def addReply (i : Nat) (r : Reply) (s : Outside) : Outside :=
  { s with firings := s.firings.modify i fun f => { f with replies := f.replies ++ [r] } }

/-- How often a callback has been invoked. -/
def timesInvoked (s : Outside) (c : Callback) : Nat := s.invoked.count c

end Outside

end EventLoop.Scenario
