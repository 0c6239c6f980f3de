import EventLoop.Settings.Basic
import EventLoop.Store.Basic
import EventLoop.Toml.Document

/-!
# Settings from TOML

A document has one table per section. What it does not mention keeps its default, and what is no setting is
passed over; a setting of the wrong type spoils the whole.

A section may also be written as an array, which gives its settings in order; what is missing at the end
keeps its default, and what is too much is passed over. Where a table is expected a date counts as one: it
has a single entry, its text under a reserved key. So a section that is a date says nothing, and a seed
that is a date has one entry. Within a seed, a table whose first key is the reserved one is the date
written there.
-/

namespace EventLoop

namespace Toml

/-- The key under which a date hides in a table. -/
def dateKey : String := "$__toml_private_datetime"

mutual

/-- The value with the dates that hide in its tables. -/
def Value.reveal : Value → Option Value
  | .array items => (revealItems items).map .array
  | .table entries =>
    match entries with
    | (key, v) :: _ =>
      if key = dateKey then
        match v with
        | .string text => (DateTime.ofText? text.toList).map .dateTime
        | _ => none
      else (revealEntries entries).map .table
    | [] => some (.table [])
  | v => some v

/-- The items of an array with the dates that hide in them. -/
def revealItems : List Value → Option (List Value)
  | [] => some []
  | v :: rest => do some ((← v.reveal) :: (← revealItems rest))

/-- The entries of a table with the dates that hide in them. -/
def revealEntries : List (String × Value) → Option (List (String × Value))
  | [] => some []
  | (key, v) :: rest => do some ((key, ← v.reveal) :: (← revealEntries rest))

end

/-- The values of the fields of a section, in the order of the fields' names. -/
def fields? (names : List String) : Value → Option (List (Option Value))
  | .table entries => some (names.map (lookup? entries))
  | .array items => some ((List.range names.length).map fun i => items[i]?)
  | .dateTime _ => some (names.map fun _ => none)
  | _ => none

/-- A number without sign. -/
def Value.unsigned? : Value → Option UInt64
  | .integer i => if 0 ≤ i.toInt then some i.toUInt64 else none
  | _ => none

/-- A text. -/
def Value.text? : Value → Option String
  | .string text => some text
  | _ => none

/-- The entries of a table, or of a date. -/
def Value.entries? : Value → Option (List (String × Value))
  | .table entries => some entries
  | .dateTime d => some [(dateKey, .string d.text)]
  | _ => none

end Toml

namespace Settings

/-- A field that keeps its default when it is missing. -/
def field {α : Type} (decode : Toml.Value → Option α) (default : α) : Option Toml.Value → Option α
  | none => some default
  | some v => decode v

/-- A field that may be missing. -/
def optional {α : Type} (decode : Toml.Value → Option α) : Option Toml.Value → Option (Option α)
  | none => some none
  | some v => (decode v).map some

/-- The seed of the store, in the order of its keys. -/
def seed? (v : Toml.Value) : Option (List (String × Toml.Value)) := do
  let entries ← v.entries?
  let entries ← Toml.revealEntries entries
  some (entries.mergeSort fun a b => !keyBefore b.1 a.1)

/-- The settings of the reactor. -/
def reactor? (v : Toml.Value) : Option ReactorSettings := do
  match ← Toml.fields? ["busy_wait_floor_us", "prealloc_groups", "prealloc_notifications"] v with
  | [floor, groups, notifications] =>
    let default : ReactorSettings := {}
    some
      { floorMicros := ← field Toml.Value.unsigned? default.floorMicros floor
        groups := ← field Toml.Value.unsigned? default.groups groups
        notifications := ← field Toml.Value.unsigned? default.notifications notifications }
  | _ => none

/-- The settings of the store. -/
def store? (v : Toml.Value) : Option StoreSettings := do
  match ← Toml.fields? ["prealloc_entries", "seed"] v with
  | [entries, seed] =>
    let default : StoreSettings := {}
    some
      { entries := ← field Toml.Value.unsigned? default.entries entries
        seed := ← field seed? default.seed seed }
  | _ => none

/-- The settings of the log. -/
def logging? (v : Toml.Value) : Option LogSettings := do
  match ← Toml.fields? ["level", "directory"] v with
  | [level, directory] =>
    let default : LogSettings := {}
    some
      { level := ← field Toml.Value.text? default.level level
        directory := ← optional Toml.Value.text? directory }
  | _ => none

/-- The settings of the driver loop. -/
def driver? (v : Toml.Value) : Option DriverSettings := do
  match ← Toml.fields? ["heartbeat_secs", "max_ticks"] v with
  | [heartbeat, maxTicks] =>
    let default : DriverSettings := {}
    some
      { heartbeatSecs := ← field Toml.Value.unsigned? default.heartbeatSecs heartbeat
        maxTicks := ← optional Toml.Value.unsigned? maxTicks }
  | _ => none

/-- The settings of a document. -/
def ofTable? (entries : List (String × Toml.Value)) : Option Settings := do
  some
    { reactor := ← field reactor? {} (Toml.lookup? entries "reactor")
      store := ← field store? {} (Toml.lookup? entries "store")
      logging := ← field logging? {} (Toml.lookup? entries "logging")
      driver := ← field driver? {} (Toml.lookup? entries "driver") }

/-- The settings that a text describes. -/
def ofText (text : String) : Except SettingsError Settings :=
  match Toml.Document.parse text with
  | none => .error (.malformed "invalid document")
  | some entries =>
    match ofTable? entries with
    | none => .error (.malformed "invalid setting")
    | some settings => .ok settings

/-! ## Files -/

/-- The file of the settings unless another one is named. -/
def fileName : String := "tickloop.toml"

/-- What a path leads to. -/
inductive Source where
  | missing
  | file (bytes : List UInt8)
  | unreadable (fault : Fault)

/-- The settings that a path leads to. Without a file everything has its default. -/
def load : Source → Except SettingsError Settings
  | .missing => .ok {}
  | .unreadable fault => .error (.unreadable fault)
  | .file bytes =>
    match String.fromUTF8? ⟨bytes.toArray⟩ with
    | some text => ofText text
    | none => .error (.unreadable .notText)

end Settings

end EventLoop
