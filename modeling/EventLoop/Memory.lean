/-!
# Memory

Whether room can be had is a question to the system, so every operation that reserves room takes the
answers as an argument. An operation asks before it changes anything it could not undo.

* `Memory.grants` answers for a purpose and a number of bytes.
* `Memory.ofBlocks` refuses blocks above a size and nothing else; `Memory.standard` draws the line at
  sixteen gibibytes.
-/

namespace EventLoop

/-- What room is reserved for. -/
inductive Purpose where
  /-- Slots of a pool. -/
  | slots
  /-- The list of a pool's spare slots. -/
  | spares
  /-- The sorted index of a store. -/
  | index
  /-- The key of a new entry. -/
  | key
  /-- The payload of an entry. -/
  | payload
  /-- The list of a reactor's groups. -/
  | groups
  /-- The notifications held by one group. -/
  | pending
  /-- The entries of a wait. -/
  | waits
  /-- The queue of selected notifications. -/
  | ready
  deriving DecidableEq, Repr

/-- Which reservations the system grants. -/
structure Memory where
  grants : Purpose → Nat → Bool

namespace Memory

/-- Grants blocks up to a size. -/
def ofBlocks (most : Nat) : Memory := ⟨fun _ bytes => bytes ≤ most⟩

/-- Grants blocks up to sixteen gibibytes. -/
def standard : Memory := ofBlocks 17179869184

/-- Grants whatever is asked. -/
def unbounded : Memory := ⟨fun _ _ => true⟩

end Memory

end EventLoop
