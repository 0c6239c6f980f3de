import EventLoop.Proofs.Pool.Capacity

/-!
# Slots that are taken in vain

A pool hands an object out if a slot is spare or if it can grow. An object that is handed out and taken back at
once leaves its slot at the end of the spare list, so that whatever could be handed out before can be handed out
afterwards.

* `limit_acquire`, `limit_discard`, … — no operation moves the bound on growth, …
* `modify_setLimit`, `discard_setLimit` — … and only handing out depends on it.
* `acquire_isOk_iff` — when an object is handed out.
* `Respared` — the spare slots after one was handed out in vain.
-/

namespace EventLoop.Pool

variable {α : Type}

/-! ## The bound on growth -/

theorem limit_modify (p : Pool α) (h : Handle) (f : α → α) : (p.modify h f).limit = p.limit := by
  unfold modify
  split <;> rfl

theorem modify_setLimit (p : Pool α) (limit : Option Nat) (h : Handle) (f : α → α) :
    (p.setLimit limit).modify h f = (p.modify h f).setLimit limit := by
  have hcontains : (p.setLimit limit).contains h = p.contains h := rfl
  unfold modify
  rw [hcontains]
  split <;> rfl

variable [Poolable α]

theorem limit_acquire {memory : Memory} {p q : Pool α} {h : Handle} (ha : p.acquire memory = .ok (h, q)) :
    q.limit = p.limit := by
  unfold acquire activate at ha
  split at ha
  · cases ha
    rfl
  · split at ha
    · cases ha
      rfl
    · cases ha

theorem limit_release {p q : Pool α} {h : Handle} {v : α} (hr : p.release h = some (v, q)) :
    q.limit = p.limit := by
  unfold release releaseWith at hr
  obtain ⟨w, -, he⟩ := Option.map_eq_some_iff.mp hr
  cases he
  rfl

theorem limit_discard (p : Pool α) (h : Handle) : (p.discard h).limit = p.limit := by
  unfold discard
  split
  · next hr => exact limit_release hr
  · rfl

theorem discard_setLimit (p : Pool α) (limit : Option Nat) (h : Handle) :
    (p.setLimit limit).discard h = (p.discard h).setLimit limit := by
  have hget : (p.setLimit limit).get? h = p.get? h := rfl
  unfold discard release releaseWith
  rw [hget]
  cases p.get? h <;> rfl

/-! ## Handing out -/

theorem acquire_isOk_iff {memory : Memory} {p : Pool α} :
    (p.acquire memory).isOk = true ↔ (p.spare = [] → p.canGrow memory = true) := by
  unfold acquire
  split
  · next i rest hspare => simp [hspare, Except.isOk, Except.toBool]
  · next hspare =>
    split
    · next hgrow => simp [hgrow, Except.isOk, Except.toBool]
    · next hgrow => simp [hgrow, hspare, Except.isOk, Except.toBool]

/-- A pool without a bound grows, given the memory, unless its positions are used up. -/
theorem exists_acquire {memory : Memory} (hmem : ∀ what bytes, memory.grants what bytes = true)
    {p : Pool α} (hp : p.WellFormed) (hlimit : p.limit = none) (hfew : p.activeCount < 4294967296) :
    ∃ h q, p.acquire memory = .ok (h, q) := by
  unfold acquire
  cases hs : p.spare with
  | cons i spare => exact ⟨_, _, rfl⟩
  | nil =>
    have hsize := hp.activeCount_add_spare
    rw [hs, List.length_nil, Nat.add_zero] at hsize
    have hgrow : p.canGrow memory = true := by
      unfold canGrow
      rw [hlimit, hmem, hmem, ← hsize]
      simpa using hfew
    dsimp only
    rw [if_pos hgrow]
    exact ⟨_, _, rfl⟩

theorem spare_discard {p : Pool α} {h : Handle} (hc : p.contains h = true) :
    (p.discard h).spare = p.spare ++ [h.index] := by
  obtain ⟨v, hv⟩ := contains_eq_true.mp hc
  simp [discard, release, releaseWith, hv]

/-- What is taken back is recycled in its slot. -/
theorem slots_discard {p : Pool α} {h : Handle} (hc : p.contains h = true) :
    ∃ s v, (p.discard h).slots[h.index.toNat]? = some s ∧ s.active = false ∧
      s.value = Poolable.recycle v := by
  obtain ⟨v, hv⟩ := contains_eq_true.mp hc
  obtain ⟨s, hs, -⟩ := get?_eq_some.mp hv
  have hrelease : p.release h = some (v, p.released h) := by
    rw [release, releaseWith, hv]
    rfl
  have hslots : (p.discard h).slots = (p.released h).slots := by rw [discard, hrelease]
  refine ⟨{ generation := s.generation + 1, active := false, value := Poolable.recycle s.value }, s.value,
    ?_, rfl, rfl⟩
  rw [hslots, released, Array.getElem?_modify, if_pos rfl, hs]
  rfl

/-! ## Handing out in vain -/

/-- The spare slots are those of before, perhaps in another order, or the first one that there is. -/
structure Respared (p q : Pool α) : Prop where
  limit : q.limit = p.limit
  spare : q.capacity = p.capacity ∧ q.spare = p.spare ∨
    q.capacity = p.capacity ∧ (∃ i rest, p.spare = i :: rest ∧ q.spare = rest ++ [i]) ∨
    q.capacity = p.capacity + 1 ∧ p.spare = [] ∧ q.spare = [UInt32.ofNat p.capacity]

omit [Poolable α] in
theorem Respared.refl (p : Pool α) : p.Respared p := ⟨rfl, Or.inl ⟨rfl, rfl⟩⟩

/-- An object is handed out and taken back at once. -/
theorem respared_of_discard {memory : Memory} {p q : Pool α} {h : Handle}
    (ha : p.acquire memory = .ok (h, q)) (hc : q.contains h = true) : p.Respared (q.discard h) := by
  refine ⟨(limit_discard q h).trans (limit_acquire ha), ?_⟩
  rw [capacity_discard, spare_discard hc]
  rcases acquire_cases ha with ⟨hp, hsame⟩ | ⟨hp, hq, hindex, hnew⟩
  · exact Or.inr (Or.inl ⟨hsame, h.index, q.spare, hp, rfl⟩)
  · refine Or.inr (Or.inr ⟨hnew, hp, ?_⟩)
    rw [hq, hindex]
    rfl

/-- It makes no difference if the object is written in between. -/
theorem respared_of_acquire {memory : Memory} {p q : Pool α} {h : Handle} {f : α → α}
    (ha : p.acquire memory = .ok (h, q)) (hc : (q.modify h f).contains h = true) :
    p.Respared ((q.modify h f).discard h) := by
  have hc' : q.contains h = true := by
    rw [contains, get?_modify, if_pos rfl, Option.isSome_map] at hc
    exact hc
  have hrespared := respared_of_discard ha hc'
  refine ⟨?_, ?_⟩
  · rw [limit_discard, limit_modify, limit_acquire ha]
  · rw [capacity_discard, capacity_modify, spare_discard hc, spare_modify, ← spare_discard hc',
      ← capacity_discard q h]
    exact hrespared.spare

/-- What can be handed out before can be handed out after. -/
theorem Respared.canGrow {memory : Memory} {p q : Pool α} (h : p.Respared q)
    (hp : p.spare = [] → p.canGrow memory = true) (hq : q.spare = []) : q.canGrow memory = true := by
  rcases h.spare with ⟨hcapacity, hsame⟩ | ⟨-, i, rest, -, hturned⟩ | ⟨-, -, hnew⟩
  · have hgrow := hp (hsame ▸ hq)
    unfold capacity at hcapacity
    unfold Pool.canGrow at hgrow ⊢
    rw [h.limit, hcapacity]
    exact hgrow
  · rw [hturned] at hq
    exact absurd hq (by simp)
  · rw [hnew] at hq
    cases hq

end EventLoop.Pool
