import EventLoop.Scenario.Basic

/-!
# Playing a scenario

Actions are turned into programs, and the steps of a scenario are run one by one on the machine.
-/

namespace EventLoop.Scenario

/-! ## Actions as programs -/

/-- A program on a scenario's reactor. -/
abbrev Play := Program Outside Int

/-- Registers and records the handle. -/
def registerThen (request : Request Int) (next : Reply → Play) : Play :=
  .register request fun
    | .ok h => .act (Outside.addHandle h) (next (.handle h))
    | .error e => next (.failed e)

/-- Goes on with the handle of a registration, if there was such a one. -/
def withHandle (n : Nat) (absent : Play) (next : Handle → Play) : Play :=
  .outside id fun s =>
    match s.handles[n]? with
    | none => absent
    | some h => next h

/-- An action. What goes on afterwards is given the reply, and the event of the running callback unless it
has been registered again. -/
def perform (event : Option (Event Int)) (next : Option (Event Int) → Reply → Play) : Action → Play
  | .register d callback arg interest timeout =>
    registerThen { descriptor := d, callback, arg, interest, timeout } (next event)
  | .rearm interest timeout =>
    match event with
    | none => next none .noEvent
    | some e => registerThen (e.again interest timeout) (next none)
  | .cancel n => withHandle n (next event .noHandle) fun h => .cancel h fun r => next event (.ofUnit r)
  | .isPending n =>
    withHandle n (next event .noHandle) fun h => .isPending h fun b => next event (.flag b)
  | .lookup d callback => .lookup d callback fun h => next event (.found h)
  | .tick => .tick fun r => next event (.ofCount r)
  | .counters => .status fun s => next event (.counters s.counters)
  | .describe =>
    match event with
    | some e => next event (.text e.text)
    | none => .status fun s => next event (.text s.text)
  | .floor => .status fun s => next event (.floor s.floor)
  | .status => .status fun s => next event (.status s)
  | .advance d =>
    .outside (fun s => { s with clock := s.clock + d }) fun s => next event (.time s.clock)
  | .planClock plan => .act (fun s => { s with plan }) (next event .done)
  | .queue outcome => .act (fun s => { s with outcomes := s.outcomes ++ [outcome] }) (next event .done)
  | .stop => .act (fun s => { s with stopped := true }) (next event .done)

/-- The actions of a callback in its invocation number `times`, recorded under `i`. -/
def performAll (i times : Nat) : List Step → Option (Event Int) → Play
  | [], _ => .done
  | step :: rest, event =>
    if step.upTo.any fun most => most < times then performAll i times rest event
    else
      perform event (fun event reply => .act (Outside.addReply i reply) (performAll i times rest event))
        step.action

/-- A callback: records its invocation, then acts. -/
def invoke (script : Script) (callback : Callback) (e : Event Int) : Play :=
  .status fun status =>
    .outside (Outside.addFiring e status.ready) fun s =>
      performAll (s.firings.size - 1) (s.timesInvoked callback)
        ((script[callback.identity]?).getD []) (some e)

/-! ## Hosts -/

/-- The surroundings of a scripted reactor. -/
def scripted (script : Script) : Host Outside Int where
  memory _ := .standard
  now := Outside.readClock
  wait := Outside.wait
  notify n s := { s with notices := s.notices.push n }
  stopped := Outside.stopped
  callback := invoke script

/-- Surroundings in which no file is open and the clock stands still. -/
def plain (script : Script) : Host Outside Int :=
  { scripted script with
    now := fun s => (.ok s.clock, s)
    wait := fun entries _ s => Outside.waitOnNothing entries s }

/-! ## Steps -/

/-- A step of a scenario. -/
inductive Command where
  | act (a : Action)
  /-- Runs the driver loop. -/
  | drive
  /-- Bounds the driver loop. -/
  | limit (maxTicks : Option UInt64)
  | isStopped
  /-- Gives the reactor up. -/
  | shutdown

/-- A scenario under way. -/
structure Stage where
  host : Host Outside Int
  system : System Outside Int
  maxTicks : Option UInt64 := none

namespace Stage

/-- More steps of the machine than any scenario that comes to an end will take. -/
def patience : Nat := 1000000000000

/-- Gives the reply to the present step. -/
def answer (reply : Reply) : Play := .act (fun s => { s with reply := some reply }) .done

/-- Runs a program to its end. -/
def play (stage : Stage) (p : Play) : Stage :=
  { stage with system := (Machine.run stage.host patience (Machine.start stage.system p)).system }

/-- One step. Its record is then found in the surroundings. -/
def command (stage : Stage) (c : Command) : Stage :=
  let stage := { stage with system := { stage.system with outside := stage.system.outside.turnPage } }
  match c with
  | .act a => stage.play (perform none (fun _ => answer) a)
  | .drive => stage.play (.drive stage.maxTicks fun r => answer (.ofCount r))
  | .limit maxTicks => { stage with maxTicks }.play (answer .done)
  | .isStopped => stage.play (.outside id fun s => answer (.flag s.stopped))
  | .shutdown =>
    stage.play (.status fun s => .act (stage.host.notify (Reactor.teardownNotice s)) (answer .done))

end Stage

/-- A scenario on a scripted clock and scripted waits. -/
def stageOf (script : Script) (start : Instant) (floor : Span) : Stage :=
  { host := scripted script, system := { reactor := .empty floor, outside := { clock := start } } }

/-- A scenario on a reactor built from settings. -/
def stageOfSettings (script : Script) (settings : Settings) : Except ReactorError Stage :=
  (Reactor.ofSettings .standard settings.reactor).map fun reactor =>
    { host := plain script
      system := { reactor, outside := { clock := .origin } }
      maxTicks := settings.driver.maxTicks }

end EventLoop.Scenario
