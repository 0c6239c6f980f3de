import EventLoop.Console.Terminal
import EventLoop.Log.Directory
import EventLoop.Log.Filter
import EventLoop.Reactor.Machine
import EventLoop.Settings.Decode
import EventLoop.Settings.Seed

/-!
# Running a console

A console is set up from its settings: the store is made and seeded, the reactor is made, and the program
of the console is started on it. The program registers the input and the heartbeat, drives the loop until
it is stopped, and takes leave of the reactor and of the store. What goes wrong on the way ends the run.

* `Console.start` sets a console up.
* `Console.step` lets it go on by one step, and `Console.finish` as far as its input goes.
-/

namespace EventLoop

/-- A console under way. -/
structure Console where
  host : Host Terminal Unit
  machine : Machine Terminal Unit
  /-- Which notices are shown. -/
  filter : Filter

/-- Why a console cannot be set up. -/
inductive Console.Obstacle where
  | error (e : Error)
  /-- A filter breaks off within a character. -/
  | tornFilter
  /-- The log cannot be opened in its directory. -/
  | noLog (fault : Fault)

namespace Console.Obstacle

/-- What is said about it. -/
def message : Obstacle → String
  | error e => e.message
  | tornFilter => "Filter cut within a character"
  | noLog fault => "Cannot open the log: " ++ fault.text

/-- The obstacle that keeps a log from being opened. -/
def ofLog : LogError → Obstacle
  | .directory fault => error (.system fault)
  | .file fault => noLog fault

/-- The exit code. A torn filter and a log that cannot be opened count as breakdowns of the program. -/
def exitCode : Obstacle → UInt32
  | error _ => 1
  | tornFilter => 101
  | noLog _ => 101

end Console.Obstacle

/-- A console that could not be set up: why, what it said until then, and which notices are shown. -/
structure Console.Refusal where
  obstacle : Console.Obstacle
  said : Array Utterance := #[]
  filter : Filter := []

/-- What a console finds at its start. -/
structure Console.Circumstances where
  memory : Memory
  /-- The filter that the environment asks for. -/
  filter : Option String
  /-- What comes of opening the log in a directory. -/
  openLog : String → Except LogError Unit := fun _ => .ok ()
  /-- The least number that no open descriptor has. -/
  free : Int32 := 3
  clock : Instant
  arrivals : List Arrival := []

namespace Console

/-! ## The program -/

/-- Registers the heartbeat, unless it is turned off. -/
def withHeartbeat (settings : DriverSettings) (next : Terminal.Play) : Terminal.Play :=
  if settings.heartbeatSecs = 0 then next
  else
    .register
      { descriptor := .timer, callback := Terminal.heartbeatCallback, arg := (), interest := .none
        timeout := .after settings.heartbeat }
      fun
        | .ok _ => next
        | .error e => .act (Terminal.fail (.reactor e)) .done

/-- A notice of the console itself. -/
def notice (message : String) : Notice := { level := .info, target := .console, message }

/-- The end of a console whose loop made a number of ticks. -/
def leave (ticks : Nat) : Terminal.Play :=
  .act (Terminal.notify (notice ("Stopped after " ++ Numeral.natText ticks ++ " ticks")))
    (.status fun s =>
      .act (fun t =>
          let t := t.notify (Reactor.teardownNotice s)
          { t with session := t.session.sayNotices t.session.store.noticesOfTeardown })
        .done)

/-- The whole program. -/
def program (settings : DriverSettings) (input : Int32) : Terminal.Play :=
  .register
    { descriptor := .fd input, callback := Terminal.inputCallback, arg := (), interest := .read
      timeout := .infinite }
    fun
      | .error e => .act (Terminal.fail (.reactor e)) .done
      | .ok _ =>
        withHeartbeat settings
          (.drive settings.maxTicks fun
            | .error e => .act (Terminal.fail (.reactor e)) .done
            | .ok ticks => leave ticks)

/-! ## Setting up -/

/-- The number of the descriptor that reads the input. An open log takes the least free number before it. -/
def inputNumber (free : Int32) (settings : LogSettings) : Int32 :=
  if settings.directory.isSome then free + 1 else free

/-- A notice about the log. -/
def logNotice (level : String) : Notice :=
  { level := .info, target := .logging, message := "Logging initialized at level " ++ level }

/-- A session on a new store that holds the seed, or what went wrong and was said until then. -/
def seeded (memory : Memory) (settings : StoreSettings) (said : Array Utterance) :
    Except (StoreError × Array Utterance) Session :=
  match Store.ofCapacity memory settings.entries.toNat with
  | .error e => .error (e, said)
  | .ok store =>
    let session := { store, said : Session }.sayNotices (store.noticesOfSeed memory settings.seed)
    match store.seed memory settings.seed with
    | (.error e, _) => .error (e, session.said)
    | (.ok count, store) =>
      .ok ({ session with store }.sayNotice
        (notice ("Seeded " ++ Numeral.natText count ++ " config entries")))

/-- What comes of opening the log, if there is to be one. -/
def Circumstances.logOpened (c : Circumstances) (settings : LogSettings) : Except LogError Unit :=
  match settings.directory with
  | none => .ok ()
  | some directory => c.openLog directory

/-- Sets a console up with given settings that shows what a filter lets through. -/
def withFilter (c : Circumstances) (settings : Settings) (filter : Filter) : Except Refusal Console :=
  match c.logOpened settings.logging with
  | .error e => .error { obstacle := .ofLog e }
  | .ok () =>
    match seeded c.memory settings.store #[.notice (logNotice settings.logging.level)] with
    | .error (e, said) => .error { obstacle := .error (.store e), said, filter }
    | .ok session =>
      match Reactor.ofSettings c.memory settings.reactor with
      | .error e => .error { obstacle := .error (.reactor e), said := session.said, filter }
      | .ok reactor =>
        let terminal : Terminal :=
          { session, arrivals := c.arrivals, clock := c.clock, started := c.clock }
        .ok
          { host := Terminal.host c.memory settings.driver.heartbeat
            machine :=
              Machine.start { reactor, outside := terminal }
                (program settings.driver (inputNumber c.free settings.logging))
            filter }

/-- Sets a console up with given settings. -/
def ofSettings (c : Circumstances) (settings : Settings) : Except Refusal Console :=
  match Filter.choose c.filter settings.logging.level with
  | .error _ => .error { obstacle := .tornFilter }
  | .ok filter => withFilter c settings filter

/-- Sets a console up with the settings that a path leads to. -/
def start (c : Circumstances) (source : Settings.Source) : Except Refusal Console :=
  match Settings.load source with
  | .error e => .error { obstacle := .error (.settings e) }
  | .ok settings => ofSettings c settings

/-! ## Going on -/

/-- The terminal of a console. -/
def terminal (c : Console) : Terminal := c.machine.system.outside

/-- One step; none at the end. -/
def step (c : Console) : Option Console :=
  (c.machine.step c.host).map fun machine => { c with machine }

/-- At most a number of steps. -/
def play (c : Console) (fuel : Nat) : Console := { c with machine := c.machine.run c.host fuel }

/-- Does the console need what has arrived by now? -/
def awaitsInput (c : Console) : Bool := c.machine.willTick c.host && c.terminal.arrivals.isEmpty

/-- How long the next tick waits if nothing arrives; none for as long as it takes. -/
def nextWait (c : Console) : Option Span :=
  let r := c.machine.system.reactor
  waitBound (r.earliest.map fun due => due.since c.terminal.clock) (!r.pollSet.isEmpty) r.floor

/-- The console with its terminal changed. -/
def withTerminal (c : Console) (f : Terminal → Terminal) : Console :=
  { c with machine := { c.machine with system := { c.machine.system with outside := f c.terminal } } }

/-- The console at a time of the clock. -/
def atTime (c : Console) (clock : Instant) : Console := c.withTerminal fun t => { t with clock }

/-- The console after a piece of input has arrived. -/
def arrive (c : Console) (a : Arrival) : Console :=
  c.withTerminal fun t => { t with arrivals := t.arrivals ++ [a] }

/-- The console after what it said was taken away. -/
def heard (c : Console) : Console :=
  c.withTerminal fun t => { t with session := { t.session with said := #[] } }

/-- More steps than it takes to read all that has arrived while the clock stands still. -/
def allowance (c : Console) : Nat := 16 * (c.terminal.arrivals.length + 4)

/-- Reads all that has arrived. -/
def finish (c : Console) : Console := c.play c.allowance

/-- The exit code: one if the console gave up. -/
def exitCode (c : Console) : UInt32 := if c.terminal.failure.isSome then 1 else 0

end Console

/-! ## What is seen of it -/

/-- Is what was said seen? A line always is, a notice if a filter shows it. -/
def Utterance.isSeen (filter : Filter) : Utterance → Bool
  | .line _ => true
  | .notice n => filter.shows n

/-- What is seen of what was said. -/
def Utterance.seen (filter : Filter) (said : Array Utterance) : List Utterance :=
  said.toList.filter (isSeen filter)

/-- The notices among what was said that a filter shows. -/
def Utterance.notices (filter : Filter) (said : Array Utterance) : List Notice :=
  (seen filter said).filterMap fun
    | .line _ => none
    | .notice n => some n

end EventLoop
