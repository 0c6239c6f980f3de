import EventLoop.Fault
import EventLoop.Poll
import EventLoop.Toml.Value

/-!
# Settings

What can be tuned, with the value of everything that is left unsaid.
-/

namespace EventLoop

/-- Tuning of the reactor. -/
structure ReactorSettings where
  /-- The shortest finite wait of a tick, in microseconds. -/
  floorMicros : UInt64 := 1001
  /-- Groups to have ready from the start. -/
  groups : UInt64 := 8
  /-- Notifications to have ready from the start. -/
  notifications : UInt64 := 16

/-- Tuning and first contents of the store. -/
structure StoreSettings where
  /-- Entries to have ready from the start. -/
  entries : UInt64 := 16
  /-- Values to store at the start, in the order of their keys. -/
  seed : List (String × Toml.Value) := []

/-- What to log and where. -/
structure LogSettings where
  /-- The filter that holds unless the environment brings another one. -/
  level : String := "info"
  /-- The directory of the log files; without one nothing is written to files. -/
  directory : Option String := none

/-- Behaviour of the driver loop. -/
structure DriverSettings where
  /-- Seconds between two heartbeats; zero for no heartbeat. -/
  heartbeatSecs : UInt64 := 5
  /-- The number of ticks after which to stop; none to go on until stopped. -/
  maxTicks : Option UInt64 := none

/-- All settings. -/
structure Settings where
  reactor : ReactorSettings := {}
  store : StoreSettings := {}
  logging : LogSettings := {}
  driver : DriverSettings := {}

instance : Inhabited Settings := ⟨{}⟩

/-- The shortest finite wait of a tick. -/
def ReactorSettings.floor (s : ReactorSettings) : Span := .ofMicros s.floorMicros

/-- The time between two heartbeats. -/
def DriverSettings.heartbeat (s : DriverSettings) : Span := .ofSecs s.heartbeatSecs

/-- Why settings cannot be had. -/
inductive SettingsError where
  /-- The file could not be read. -/
  | unreadable (fault : Fault)
  /-- The text is no TOML, or a setting has a value of the wrong type. -/
  | malformed (reason : String)
  deriving DecidableEq

/-- The message of a settings error. -/
def SettingsError.message : SettingsError → String
  | unreadable fault => "Failed to read settings file: " ++ fault.text
  | malformed reason => "Failed to parse settings: " ++ reason

end EventLoop
