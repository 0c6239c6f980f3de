import EventLoop.Console.Run
import Std.Time.Date.PlainDate
import Std.Time.DateTime.Timestamp

/-!
# The command line

A console on the standard streams. The environment may name the file of the settings and hold a filter.
Lines, and the notices that the filter shows, go to the standard output; notices also go to a file if the
settings name a directory for it. The exit code is one when the console cannot be set up or gives up.
-/

namespace EventLoop.CommandLine

/-! ## Names -/

/-- The variable that names the file of the settings. -/
def settingsVariable : String := "TICKLOOP_CONFIG"

/-- The variable that holds a filter. -/
def filterVariable : String := "RUST_LOG"

/-! ## Files -/

/-- A failed operation as a fault. -/
def faultOf : IO.Error → Fault
  | .interrupted _ _ text => { interrupted := true, text }
  | .inappropriateType _ 21 _ => .isDirectory
  | e => .failure (toString e)

/-- What a path leads to. -/
def sourceAt (path : String) : IO Settings.Source := do
  try
    return .file (← IO.FS.readBinFile path).data.toList
  catch
    | .noFileOrDirectory .. => return .missing
    | e => return .unreadable (faultOf e)

/-- The log of the present day. -/
def logOfToday : IO (List Char) := do
  let date := Std.Time.PlainDate.ofEpochDay (← Std.Time.Timestamp.now).toDaysSinceUnixEpoch
  return logName date.year.toInt.toNat date.month.val.toNat date.day.val.toNat

/-- Makes a directory and those on the way to it, unless they are there. A path that ends in a point names a
directory that must be there when those above it are. -/
def makeDirectory (directory : String) : IO Unit := do
  let path := directory.toList
  if stepsOfPath path = [] then pure ()
  else if endsInPoint path then
    let above := String.ofList (pathAbove path)
    if !above.isEmpty then IO.FS.createDirAll above
    try IO.FS.createDir directory
    catch
      | .alreadyExists .. => pure ()
      | e => throw e
  else IO.FS.createDirAll directory

/-- Opens the log in its directory, if there is to be one. -/
def openLog : Option String → IO (Except LogError (Option IO.FS.Handle))
  | none => return .ok none
  | some directory => do
    let path := String.ofList (pathWithin directory.toList (← logOfToday))
    try makeDirectory directory
    catch e => return .error (.directory (faultOf e))
    try return .ok (some (← IO.FS.Handle.mk path .append))
    catch e => return .error (.file (faultOf e))

/-! ## Output -/

/-- Where a console speaks to. -/
structure Output where
  standard : IO.FS.Stream
  log : Option IO.FS.Handle

/-- Passes on what a console says. -/
def Output.pass (out : Output) (filter : Filter) (said : Array Utterance) : IO Unit := do
  for u in Utterance.seen filter said do
    match u with
    | .line text => out.standard.putStrLn text
    | .notice n =>
      out.standard.putStrLn n.shown
      if let some log := out.log then log.putStrLn n.text
  if !said.isEmpty then out.standard.flush

/-- Ends with a complaint. -/
def giveUp (o : Console.Obstacle) : IO UInt32 := do
  IO.eprintln ("Error: " ++ o.message)
  return o.exitCode

/-! ## Input -/

/-- Reads bytes up to the end of a line. -/
partial def readLine (input : IO.FS.Stream) (sofar : ByteArray) : IO ByteArray := do
  let byte ← input.read 1
  let sofar := sofar ++ byte
  if byte.isEmpty || byte.data.contains Session.newline || Arrival.mostBytes ≤ sofar.size then return sofar
  readLine input sofar

/-- Reads the next piece of the input. What is typed is read line by line. -/
def readPiece (input : IO.FS.Stream) : IO Arrival := do
  try
    let bytes ←
      if ← input.isTty then readLine input ByteArray.empty
      else input.read (USize.ofNat Arrival.mostBytes)
    return .ok bytes.data.toList
  catch e => return .error (faultOf e)

/-- A read under way. -/
abbrev Reading := Task (Except IO.Error Arrival)

/-- Begins to read the next piece of the input. -/
def beginReading (input : IO.FS.Stream) : IO Reading := IO.asTask (readPiece input) .dedicated

/-- The present time. -/
def now : IO Instant := return ⟨.ofNanos (← IO.monoNanosNow)⟩

/-- Waits for a read, but not past a time. -/
partial def await (reading : Reading) (latest : Option Instant) : IO (Option Arrival) := do
  if ← IO.hasFinished reading then
    match reading.get with
    | .ok a => return some a
    | .error e => return some (.error (faultOf e))
  let t ← now
  if latest.any fun due => due.le t then return none
  IO.sleep 5
  await reading latest

/-- Brings a console to the present: the time, and what has arrived if it needs that. A read is begun when
it is needed, and goes on while other things happen. -/
def supply (input : IO.FS.Stream) (underWay : Option Reading) (c : Console) :
    IO (Option Reading × Console) := do
  let c := c.atTime (← now)
  if c.awaitsInput then
    let reading ←
      match underWay with
      | some reading => pure reading
      | none => beginReading input
    match ← await reading (c.nextWait.map fun d => c.terminal.clock + d) with
    | some a => return (none, (c.arrive a).atTime (← now))
    | none => return (some reading, c.atTime (← now))
  else return (underWay, c)

/-! ## The loop -/

/-- Steps a console to its end. -/
partial def go (out : Output) (input : IO.FS.Stream) (underWay : Option Reading) (c : Console) :
    IO Console := do
  out.pass c.filter c.terminal.session.said
  let (underWay, c) ← supply input underWay c.heard
  match c.step with
  | some c => go out input underWay c
  | none => return c

/-- Sets a console up that shows what a filter lets through, and lets it run. -/
def runWith (settings : Settings) (environment : Option String) (filter : Filter) : IO UInt32 := do
  let standard ← IO.getStdout
  let input ← IO.getStdin
  let opened ← openLog settings.logging.directory
  let circumstances : Console.Circumstances :=
    { memory := .standard, filter := environment, openLog := fun _ => opened.map fun _ => ()
      clock := ← now }
  let out : Output := { standard, log := (opened.toOption).bind id }
  match Console.withFilter circumstances settings filter with
  | .error refusal =>
    out.pass refusal.filter refusal.said
    giveUp refusal.obstacle
  | .ok c =>
    let c ← go out input none c
    match c.terminal.failure with
    | some e => giveUp (.error e)
    | none => return 0

/-- Runs a console with given settings. -/
def run (settings : Settings) : IO UInt32 := do
  let environment ← IO.getEnv filterVariable
  match Filter.choose environment settings.logging.level with
  | .error _ => giveUp .tornFilter
  | .ok filter => runWith settings environment filter

end EventLoop.CommandLine

/-- Runs a console on the standard streams. -/
def main : IO UInt32 := do
  let path := (← IO.getEnv EventLoop.CommandLine.settingsVariable).getD EventLoop.Settings.fileName
  match EventLoop.Settings.load (← EventLoop.CommandLine.sourceAt path) with
  | .error e => EventLoop.CommandLine.giveUp (.error (.settings e))
  | .ok settings => EventLoop.CommandLine.run settings
