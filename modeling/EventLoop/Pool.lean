import EventLoop.Memory
import EventLoop.Text.Numeral

/-!
# Pools of reusable objects

A pool hands out objects and takes them back. A slot is never given up: a released object is recycled in
its slot and waits on the spare list, first in, first out, and the pool grows by one slot only when no
slot is spare.

A handle names a slot together with the slot's generation, which counts its releases. A handle resolves
exactly while the object it was handed out for is active; after the release it stays stale, however often
the slot is used again, up to the 2 ^ 64 releases after which a generation repeats.
-/

namespace EventLoop

/-! ## Handles and slots -/

/-- The name of a pooled object: its slot, and the slot's generation at that time. -/
structure Handle where
  index : UInt32
  generation : UInt64
  deriving DecidableEq, Inhabited

namespace Handle

/-- The bytes of one handle. -/
def bytes : Nat := 16

/-- How a message shows a handle. -/
def text (h : Handle) : String :=
  "Handle \x7b index: " ++ Numeral.natText h.index.toNat ++ ", generation: " ++
    Numeral.natText h.generation.toNat ++ " \x7d"

end Handle

/-- Objects that a pool can hold. -/
class Poolable (α : Type) where
  /-- The object in a slot that has never been used. -/
  fresh : α
  /-- The object after its release: without payload, with what is worth keeping. -/
  recycle : α → α
  /-- The bytes of one slot. -/
  slotBytes : Nat

/-- One slot of a pool. -/
structure Slot (α : Type) where
  /-- How often the slot was released, modulo 2 ^ 64. -/
  generation : UInt64
  active : Bool
  value : α

/-- The only way in which a pool fails. -/
inductive PoolError where
  | outOfMemory
  deriving DecidableEq, Repr

/-- The message of a pool error. -/
def PoolError.message : PoolError → String
  | .outOfMemory => "pool allocation failed"

/-- Slots, and the order in which the spare ones are used again. -/
structure Pool (α : Type) where
  slots : Array (Slot α)
  spare : List UInt32
  /-- The number of slots from which on the pool refuses to grow. -/
  limit : Option Nat

namespace Pool

variable {α : Type}

/-! ## Building -/

/-- A pool without slots. -/
def empty : Pool α := { slots := #[], spare := [], limit := none }

instance : Inhabited (Pool α) := ⟨empty⟩

/-- A slot that has never been used. -/
def freshSlot [Poolable α] : Slot α := { generation := 0, active := false, value := Poolable.fresh }

/-- A pool with slots that are all spare, in the order of their positions. A position is kept in 32
bits. -/
def ofCapacity [Poolable α] (memory : Memory) (capacity : Nat) : Except PoolError (Pool α) :=
  if memory.grants .slots (capacity * Poolable.slotBytes α) && memory.grants .spares (capacity * 4) then
    .ok
      { slots := Array.replicate capacity freshSlot
        spare := (List.range capacity).map UInt32.ofNat
        limit := none }
  else .error .outOfMemory

/-! ## Looking -/

/-- The slot that a handle resolves to. -/
def slot? (p : Pool α) (h : Handle) : Option (Slot α) :=
  p.slots[h.index.toNat]?.filter fun s => s.active && s.generation == h.generation

/-- The object that a handle resolves to. -/
def get? (p : Pool α) (h : Handle) : Option α := (p.slot? h).map Slot.value

/-- Does the handle resolve? -/
def contains (p : Pool α) (h : Handle) : Bool := (p.get? h).isSome

/-- The number of slots. -/
def capacity (p : Pool α) : Nat := p.slots.size

/-- The number of spare slots. -/
def spareCount (p : Pool α) : Nat := p.spare.length

/-- The number of objects handed out. -/
def activeCount (p : Pool α) : Nat := p.slots.size - p.spare.length

/-! ## Changing -/

/-- Writes to the object that a handle resolves to. Through a stale handle nothing is written. -/
def modify (p : Pool α) (h : Handle) (f : α → α) : Pool α :=
  if p.contains h then
    { p with slots := p.slots.modify h.index.toNat fun s => { s with value := f s.value } }
  else p

/-- Hands out the object of a slot. -/
def activate (p : Pool α) (index : UInt32) : Handle × Pool α :=
  ({ index, generation := (p.slots[index.toNat]?.map Slot.generation).getD 0 },
    { p with slots := p.slots.modify index.toNat fun s => { s with active := true } })

/-- May the pool grow by one slot? -/
def canGrow [Poolable α] (memory : Memory) (p : Pool α) : Bool :=
  (p.limit.all fun limit => p.slots.size < limit) &&
    p.slots.size < 4294967296 &&
    memory.grants .slots ((p.slots.size + 1) * Poolable.slotBytes α) &&
    memory.grants .spares ((p.slots.size + 1) * 4)

/-- Hands out the object that has been spare longest, or one in a new slot. -/
def acquire [Poolable α] (memory : Memory) (p : Pool α) : Except PoolError (Handle × Pool α) :=
  match p.spare with
  | index :: spare => .ok (activate { p with spare } index)
  | [] =>
    if p.canGrow memory then
      .ok (activate { p with slots := p.slots.push freshSlot } (UInt32.ofNat p.slots.size))
    else .error .outOfMemory

/-- Takes an object back, unless the handle is stale. A last look at the object gives the answer, and what it
leaves of the object is recycled. -/
def releaseWith {β : Type} [Poolable α] (p : Pool α) (h : Handle) (extract : α → β × α) :
    Option (β × Pool α) :=
  (p.get? h).map fun value =>
    ((extract value).1,
      { p with
        slots := p.slots.modify h.index.toNat fun s =>
          { generation := s.generation + 1
            active := false
            value := Poolable.recycle (extract s.value).2 }
        spare := p.spare ++ [h.index] })

/-- Takes an object back and gives its last value, unless the handle is stale. -/
def release [Poolable α] (p : Pool α) (h : Handle) : Option (α × Pool α) :=
  p.releaseWith h fun value => (value, value)

/-- Takes an object back, if the handle resolves. -/
def discard [Poolable α] (p : Pool α) (h : Handle) : Pool α :=
  match p.release h with
  | some (_, p) => p
  | none => p

/-- Sets or lifts the bound on growth. No slot is ever given up for it. -/
def setLimit (p : Pool α) (limit : Option Nat) : Pool α := { p with limit }

/-- Gives up every slot. The bound on growth stays. -/
def clear (p : Pool α) : Pool α := { p with slots := #[], spare := [] }

end Pool

end EventLoop
