import EventLoop.Settings.Basic
import EventLoop.Store.Basic

/-!
# Seeding a store

The seed of the settings is laid over a store: an integer becomes a long, a float a double, a boolean an
int (0 or 1) and a string a string, each under its key. Other values have no place in a store and are
passed over.
-/

namespace EventLoop

/-- The value that a seed entry stores, if its type has a place in a store. -/
def Toml.Value.stored? : Toml.Value → Option EventLoop.Value
  | .integer i => some (.long i)
  | .float x => some (.double x)
  | .boolean b => some (.int (if b then 1 else 0))
  | .string text => some (.string text)
  | .dateTime _ => none
  | .array _ => none
  | .table _ => none

namespace Store

/-- Stores the entries of a seed in order, up to the first that fails, and counts them. -/
def seed (memory : Memory) (s : Store) : List (String × Toml.Value) → Except StoreError Nat × Store
  | [] => (.ok 0, s)
  | (key, v) :: rest =>
    match v.stored? with
    | none => seed memory s rest
    | some value =>
      match s.set memory (some key) value with
      | (.error e, s) => (.error e, s)
      | (.ok (), s) =>
        let (count, s) := seed memory s rest
        (count.map (· + 1), s)

/-- What passing over a seed entry reports. -/
def skipNotice (key : String) (v : Toml.Value) : Notice :=
  notice .warn ("Skipping seed entry " ++ key ++ ": unsupported " ++ v.typeName ++ " value")

/-- What seeding reports. -/
def noticesOfSeed (memory : Memory) (s : Store) : List (String × Toml.Value) → List Notice
  | [] => []
  | (key, v) :: rest =>
    match v.stored? with
    | none => skipNotice key v :: noticesOfSeed memory s rest
    | some value =>
      match s.set memory (some key) value with
      | (.error _, _) => []
      | (.ok (), t) => s.noticesOfSet (some key) value ++ noticesOfSeed memory t rest

end Store

end EventLoop
