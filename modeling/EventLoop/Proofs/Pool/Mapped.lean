import EventLoop.Pool
import EventLoop.Proofs.Pool.Handles

/-!
# Changing every object of a pool

Changing all objects of a pool in the same way, whether in use or spare, commutes with every operation of the
pool, as long as the change commutes with what the operation writes.

* `Pool.get?_map`, `Pool.modify_map` — looking and writing.
* `Pool.acquire_map`, `Pool.release_map` — handing out and taking back.
-/

namespace EventLoop

variable {α : Type}

/-- The slot with its object changed. -/
def Slot.map (f : α → α) (s : Slot α) : Slot α := { s with value := f s.value }

namespace Pool

/-- The pool with every object changed. -/
def map (f : α → α) (p : Pool α) : Pool α := { p with slots := p.slots.map (Slot.map f) }

/-- Changing one slot and changing all of them in another way, if the two ways commute. -/
theorem slots_modify_map {f : α → α} (g : Slot α → Slot α) {g' : Slot α → Slot α}
    (h : ∀ s, g' (s.map f) = (g s).map f) (slots : Array (Slot α)) (i : Nat) :
    (slots.map (Slot.map f)).modify i g' = (slots.modify i g).map (Slot.map f) := by
  refine Array.ext (by simp) fun j hj hj' => ?_
  simp only [Array.getElem_modify, Array.getElem_map]
  split
  · exact h _
  · rfl

section

variable (f : α → α) (p : Pool α)

@[simp] theorem spare_map : (p.map f).spare = p.spare := rfl

@[simp] theorem capacity_map : (p.map f).capacity = p.capacity := by simp [map, capacity]

@[simp] theorem spareCount_map : (p.map f).spareCount = p.spareCount := rfl

@[simp] theorem activeCount_map : (p.map f).activeCount = p.activeCount := by simp [map, activeCount]

@[simp] theorem get?_map (h : Handle) : (p.map f).get? h = (p.get? h).map f := by
  unfold get? slot? map
  rw [Array.getElem?_map]
  cases p.slots[h.index.toNat]? with
  | none => rfl
  | some s =>
    have hresolves : ((s.map f).active && (s.map f).generation == h.generation) =
        (s.active && s.generation == h.generation) := rfl
    simp only [Option.map_some, Option.filter_some, hresolves]
    split <;> rfl

@[simp] theorem contains_map (h : Handle) : (p.map f).contains h = p.contains h := by
  rw [contains, contains, get?_map, Option.isSome_map]

end

variable {f : α → α}

theorem modify_map (g : α → α) {g' : α → α} (hfg : ∀ v, g' (f v) = f (g v)) (p : Pool α) (h : Handle) :
    (p.map f).modify h g' = (p.modify h g).map f := by
  unfold modify
  rw [contains_map]
  split
  · unfold map
    dsimp only
    rw [slots_modify_map (fun s => { s with value := g s.value })]
    simp [Slot.map, hfg]
  · rfl

theorem activate_map (p : Pool α) (i : UInt32) :
    (p.map f).activate i = ((p.activate i).1, (p.activate i).2.map f) := by
  have hgeneration : (p.map f).slots[i.toNat]?.map Slot.generation =
      p.slots[i.toNat]?.map Slot.generation := by
    simp [map, Slot.map, Function.comp_def]
  unfold activate
  rw [hgeneration]
  unfold map
  dsimp only
  rw [slots_modify_map (fun s => { s with active := true }) fun _ => rfl]

variable [Poolable α]

theorem canGrow_map (memory : Memory) (p : Pool α) : (p.map f).canGrow memory = p.canGrow memory := by
  simp [canGrow, map]

/-- A fresh object is not changed, so handing out changes nothing else. -/
theorem acquire_map (hfresh : f Poolable.fresh = Poolable.fresh) (memory : Memory) (p : Pool α) :
    (p.map f).acquire memory = (p.acquire memory).map fun a => (a.1, a.2.map f) := by
  unfold acquire
  rw [spare_map]
  split
  · next i spare hspare =>
    rw [show ({ p.map f with spare } : Pool α) = ({ p with spare } : Pool α).map f from rfl, activate_map]
    rfl
  · rw [canGrow_map]
    split
    · have hpush : (p.map f).slots.push freshSlot = (p.slots.push freshSlot).map (Slot.map f) := by
        simp [map, Slot.map, freshSlot, hfresh]
      rw [hpush, show (p.map f).slots.size = p.slots.size from p.capacity_map f]
      exact congrArg Except.ok (activate_map { p with slots := p.slots.push freshSlot } _)
    · rfl

/-- What is recycled may be changed before or after. -/
theorem release_map (hrecycle : ∀ v, Poolable.recycle (f v) = f (Poolable.recycle v)) (p : Pool α)
    (h : Handle) :
    (p.map f).release h = (p.release h).map fun a => (f a.1, a.2.map f) := by
  unfold release releaseWith
  rw [get?_map]
  cases p.get? h with
  | none => rfl
  | some v =>
    simp only [Option.map_some, map]
    rw [slots_modify_map fun s =>
      { generation := s.generation + 1, active := false, value := Poolable.recycle s.value }]
    simp [Slot.map, hrecycle]

theorem discard_map (hrecycle : ∀ v, Poolable.recycle (f v) = f (Poolable.recycle v)) (p : Pool α)
    (h : Handle) : (p.map f).discard h = (p.discard h).map f := by
  unfold discard
  rw [release_map hrecycle]
  cases p.release h with
  | none => rfl
  | some a => rfl

end Pool

end EventLoop
