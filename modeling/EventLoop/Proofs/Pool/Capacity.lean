import EventLoop.Proofs.Pool.Handles

/-!
# How many slots a pool has

A pool gives no slot up, and takes a new one only when none is spare. So after any operation it has the slots
that it had, or exactly as many as are in use now (`Pool.Fills`).

* `acquire_cases` — handing out takes a spare slot or a new one.
* `fills_of_acquire` — and a new one only when all are in use.
* `capacity_eq_max` — the number of slots after a number of steps.
-/

namespace EventLoop.Pool

variable {α : Type}

/-- The pool has as many slots as before, or as many as are in use now, whichever is more. -/
def Fills (p q : Pool α) : Prop := q.capacity = max p.capacity q.activeCount

theorem activeCount_le_capacity (p : Pool α) : p.activeCount ≤ p.capacity := Nat.sub_le _ _

theorem fills_of_capacity_eq {p q : Pool α} (h : q.capacity = p.capacity) : p.Fills q := by
  have hle := q.activeCount_le_capacity
  unfold Fills
  omega

@[simp] theorem capacity_modify (p : Pool α) (h : Handle) (f : α → α) :
    (p.modify h f).capacity = p.capacity := size_modify p h f

@[simp] theorem activeCount_modify (p : Pool α) (h : Handle) (f : α → α) :
    (p.modify h f).activeCount = p.activeCount := by simp [activeCount]

theorem Fills.modify {p q : Pool α} (hf : p.Fills q) (h : Handle) (f : α → α) :
    p.Fills (q.modify h f) := by
  unfold Fills
  rw [capacity_modify, activeCount_modify]
  exact hf

/-- A pool that takes a new slot only when all are in use has as many slots as at first, or as were in use at
most. The induction is on the number of steps. -/
theorem capacity_eq_max (pools : Nat → Pool α) {peak : Nat → Nat} (hzero : peak 0 = (pools 0).activeCount)
    (hsucc : ∀ k, peak (k + 1) = max (peak k) (pools (k + 1)).activeCount) {n : Nat}
    (hfill : ∀ k < n, (pools k).Fills (pools (k + 1))) :
    (pools n).capacity = max (pools 0).capacity (peak n) := by
  induction n with
  | zero =>
    rw [hzero]
    exact (Nat.max_eq_left (activeCount_le_capacity _)).symm
  | succ n ih =>
    have hstep : (pools (n + 1)).capacity = max (pools n).capacity (pools (n + 1)).activeCount :=
      hfill n (Nat.lt_succ_self n)
    rw [hstep, ih fun k hk => hfill k (Nat.lt_succ_of_lt hk), hsucc, Nat.max_assoc]

variable [Poolable α]

@[simp] theorem capacity_discard (p : Pool α) (h : Handle) : (p.discard h).capacity = p.capacity := by
  unfold discard release releaseWith
  cases p.get? h with
  | none => rfl
  | some v => simp [capacity]

theorem capacity_release {p q : Pool α} {h : Handle} {v : α} (hr : p.release h = some (v, q)) :
    q.capacity = p.capacity := by
  unfold release releaseWith at hr
  obtain ⟨w, -, he⟩ := Option.map_eq_some_iff.mp hr
  cases he
  simp [capacity]

/-- **Handing out takes the slot that has been spare longest, or a new one if there is none.** -/
theorem acquire_cases {memory : Memory} {p q : Pool α} {h : Handle} (ha : p.acquire memory = .ok (h, q)) :
    p.spare = h.index :: q.spare ∧ q.capacity = p.capacity ∨
      p.spare = [] ∧ q.spare = [] ∧ h.index = UInt32.ofNat p.capacity ∧ q.capacity = p.capacity + 1 := by
  unfold acquire at ha
  split at ha
  · next i rest hspare =>
    cases ha
    exact Or.inl ⟨hspare, by simp [capacity]⟩
  · next hspare =>
    split at ha
    · cases ha
      exact Or.inr ⟨hspare, hspare, rfl, by simp [capacity]⟩
    · cases ha

theorem capacity_of_acquire {memory : Memory} {p q : Pool α} {h : Handle}
    (ha : p.acquire memory = .ok (h, q)) :
    q.capacity = p.capacity ∨ p.spareCount = 0 ∧ q.capacity = p.capacity + 1 := by
  rcases acquire_cases ha with ⟨-, hsame⟩ | ⟨hspare, -, -, hnew⟩
  · exact Or.inl hsame
  · exact Or.inr ⟨by rw [spareCount, hspare, List.length_nil], hnew⟩

/-- **A pool takes a new slot only when all that it has are in use.** -/
theorem fills_of_acquire {memory : Memory} {p q : Pool α} {h : Handle} (hp : p.WellFormed)
    (ha : p.acquire memory = .ok (h, q)) : p.Fills q := by
  obtain ⟨v, -, hadds⟩ := adds_of_acquire hp ha
  rcases capacity_of_acquire ha with hsame | ⟨hspare, hnew⟩
  · exact fills_of_capacity_eq hsame
  · -- nothing is spare, so as many are in use as there are
    have hsum := hp.activeCount_add_spare
    have hcount := hadds.activeCount
    unfold Fills
    unfold capacity at hnew ⊢
    unfold spareCount at hspare
    omega

theorem capacity_of_ofCapacity {memory : Memory} {n : Nat} {p : Pool α}
    (h : ofCapacity memory n = .ok p) : p.capacity = n := by
  unfold ofCapacity at h
  split at h
  · cases h
    simp [capacity]
  · cases h

/-- The slots that are set aside are spare in the order of their positions, each of which is cut to 32 bits. -/
theorem spare_of_ofCapacity {memory : Memory} {n : Nat} {p : Pool α} (h : ofCapacity memory n = .ok p) :
    p.spare = (List.range n).map UInt32.ofNat := by
  unfold ofCapacity at h
  split at h
  · cases h
    rfl
  · cases h

/-- Positions up to 2 ^ 32 are not changed by cutting them to 32 bits. -/
theorem map_toNat_ofNat {n : Nat} (hn : n ≤ 4294967296) :
    (List.range n).map (fun i => (UInt32.ofNat i).toNat) = List.range n := by
  refine (List.map_congr_left fun i hi => ?_).trans (List.map_id _)
  exact UInt32.toNat_ofNat_of_lt' (Nat.lt_of_lt_of_le (List.mem_range.mp hi) hn)

theorem positions_of_ofCapacity {memory : Memory} {n : Nat} {p : Pool α} (hn : n ≤ 4294967296)
    (h : ofCapacity memory n = .ok p) : p.spare.map UInt32.toNat = List.range n := by
  rw [spare_of_ofCapacity h, List.map_map]
  exact map_toNat_ofNat hn

end EventLoop.Pool
