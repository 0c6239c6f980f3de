import EventLoop.Proofs.Pool.Capacity
import EventLoop.Proofs.Store.Map

/-!
# The records of a store

A store keeps each entry in a record of a pool. A record is live while the index names it, and spare
otherwise; a spare record is used again before a new one is allocated.

* `Store.Owned` — who holds which record.
* `entries_of_call` — only an insertion takes a record.
* `capacity_eq_max` — as many records are allocated as were set aside, or as there were entries at most.
* `records_accounted_for` — all this, after any calls.
-/

namespace EventLoop.Store

/-! ## Who holds which record -/

/-- Every record is live or spare, and nothing is left in a spare one. -/
structure Owned (s : Store) : Prop where
  /-- The index holds the handles of the live records, each once, … -/
  nodup : s.index.toList.Nodup
  live : ∀ h, h ∈ s.index.toList ↔ s.entries.contains h = true
  /-- … in strictly increasing order of the bytes of their keys. -/
  ascending : s.index.toList.Pairwise fun h k =>
    ∃ a b, s.entries.get? h = some a ∧ s.entries.get? k = some b ∧ keyBytes a.key < keyBytes b.key
  /-- The spare records are the others, each once, … -/
  spare_nodup : s.entries.spare.Nodup
  spare : ∀ i, i ∈ s.entries.spare ↔
    ∃ slot, s.entries.slots[i.toNat]? = some slot ∧ slot.active = false
  /-- … and have an empty key and no value. -/
  blank : ∀ (i : Nat) slot, s.entries.slots[i]? = some slot → slot.active = false →
    slot.value.key = "" ∧ slot.value.value = .void
  total : s.size + s.spareCount = s.entries.capacity

variable {s : Store} {l : List Entry}

theorem Lists.pairwise_index (hs : s.Lists l) :
    s.index.toList.Pairwise fun h k =>
      ∃ a b, s.entries.get? h = some a ∧ s.entries.get? k = some b ∧ keyBytes a.key < keyBytes b.key := by
  have hsome : (l.map some).Pairwise fun x y =>
      ∃ a b, x = some a ∧ y = some b ∧ keyBytes a.key < keyBytes b.key :=
    List.pairwise_map.mpr (hs.ascending.imp fun hab => ⟨_, _, rfl, rfl, keyBefore_iff.mp hab⟩)
  rw [← hs.resolves] at hsome
  exact List.pairwise_map.mp hsome

/-- As many records are in use as there are entries. -/
theorem Lists.activeCount_eq (hs : s.Lists l) : s.entries.activeCount = s.size :=
  hs.entries.activeCount_eq_length hs.nodup hs.live

theorem Lists.total (hs : s.Lists l) : s.size + s.spareCount = s.entries.capacity := by
  rw [← hs.activeCount_eq]
  exact hs.entries.activeCount_add_spare

theorem Lists.owned (hs : s.Lists l) : s.Owned where
  nodup := hs.nodup
  live := hs.live
  ascending := hs.pairwise_index
  spare_nodup := hs.entries.nodup
  spare := hs.entries.mem_spare
  blank i slot hslot ha := by
    rw [Entry.eq_blank_of_isIdle (hs.entries.idle i slot hslot ha)]
    exact ⟨rfl, rfl⟩
  total := hs.total

/-! ## What a call does to the records -/

theorem capacity_foldl_discard (hs : List Handle) (p : Pool Entry) :
    (hs.foldl Pool.discard p).capacity = p.capacity := by
  induction hs generalizing p with
  | nil => rfl
  | cons h rest ih => exact (ih _).trans (Pool.capacity_discard p h)

theorem capacity_clear (s : Store) : s.clear.entries.capacity = s.entries.capacity := by
  unfold clear
  rw [← Array.foldl_toList]
  exact capacity_foldl_discard _ _

theorem capacity_remove (s : Store) (key : String) :
    (s.remove key).2.entries.capacity = s.entries.capacity := by
  unfold remove
  split
  · dsimp only
    split
    · exact Pool.capacity_discard _ _
    · rfl
  · rfl

theorem capacity_update (memory : Memory) (s : Store) (h : Handle) (v : Value) :
    (s.update memory h v).2.entries.capacity = s.entries.capacity := by
  unfold update
  split
  · rfl
  · split
    · exact Pool.capacity_modify _ _ _
    · rfl

/-- An insertion takes a record from the pool: the pool and the index have room for it. -/
structure Takes (s : Store) (memory : Memory) (q : Pool Entry) (result : Except StoreError Unit × Store) :
    Prop where
  room : memory.grants .index ((s.size + 1) * Handle.bytes) = true
  acquired : ∃ h, s.entries.acquire memory = .ok (h, q)
  capacity : result.2.entries.capacity = q.capacity
  /-- It is given back only if the insertion fails. -/
  kept : result.1.isOk = true → result.2.entries.activeCount = q.activeCount

theorem insertAt_cases (memory : Memory) (s : Store) (pos : Nat) (key : String) (v : Value) :
    (s.insertAt memory pos key v).2 = s ∨
      ∃ q, s.Takes memory q (s.insertAt memory pos key v) := by
  unfold insertAt
  split
  · next hroom =>
    cases hacq : s.entries.acquire memory with
    | error err => exact Or.inl rfl
    | ok p =>
      obtain ⟨h, q⟩ := p
      refine Or.inr ⟨q, ?_⟩
      dsimp only
      cases ((q.get? h).getD .blank).fill memory key v with
      | ok e => exact ⟨hroom, ⟨h, hacq⟩, Pool.capacity_modify _ _ _, fun _ => Pool.activeCount_modify _ _ _⟩
      | error err => exact ⟨hroom, ⟨h, hacq⟩, Pool.capacity_discard _ _, nofun⟩
  · exact Or.inl rfl

/-- A value is written to the entry with its key, or to a new one. -/
theorem set_cases (memory : Memory) (s : Store) (key : String) {v : Value} (hv : v ≠ .void) :
    s.set memory (some key) v = (.ok (), s) ∨
      (∃ h, s.set memory (some key) v = s.update memory h v) ∨
        s.contains key = false ∧ s.set memory (some key) v = s.insertAt memory (s.rank key) key v := by
  cases hkey : s.contains key with
  | true =>
    rw [set_eq_of_contains memory hv hkey]
    cases s.index[s.rank key]? with
    | none => exact Or.inl rfl
    | some h => exact Or.inr (Or.inl ⟨h, rfl⟩)
  | false => exact Or.inr (Or.inr ⟨rfl, set_of_not_contains memory hv hkey⟩)

/-- Does a call write a value under a key that is not there yet? -/
def Inserts (s : Store) (memory : Memory) : StoreCall → Prop
  | .set granted (some key) v => granted = memory ∧ v ≠ .void ∧ s.contains key = false
  | _ => False

/-- **Only an insertion takes a record.** -/
theorem entries_of_call (s : Store) (c : StoreCall) :
    (s.call c).2.entries.capacity = s.entries.capacity ∨
      ∃ memory q, s.Inserts memory c ∧ s.Takes memory q (s.call c) := by
  cases c with
  | remove key => exact Or.inl (capacity_remove s key)
  | clear => exact Or.inl (capacity_clear s)
  | set memory key v =>
    show (s.set memory key v).2.entries.capacity = _ ∨ _
    cases key with
    | none =>
      cases v with
      | void => exact Or.inl (capacity_clear s)
      | _ => exact Or.inl rfl
    | some key =>
      by_cases hv : v = .void
      · subst hv
        exact Or.inl (capacity_remove s key)
      · rcases set_cases memory s key hv with hset | ⟨h, hset⟩ | ⟨hc, hset⟩
        · exact Or.inl (by rw [hset])
        · exact Or.inl (by rw [hset, capacity_update])
        · rcases insertAt_cases memory s (s.rank key) key v with hsame | ⟨q, htakes⟩
          · exact Or.inl (by rw [hset, hsame])
          · refine Or.inr ⟨memory, q, ⟨rfl, hv, hc⟩, ?_⟩
            rw [call, hset]
            exact htakes

/-- No call gives a record up, and none allocates one while another is spare. -/
theorem capacity_of_call (s : Store) (c : StoreCall) :
    (s.call c).2.entries.capacity = s.entries.capacity ∨
      s.spareCount = 0 ∧ (s.call c).2.entries.capacity = s.entries.capacity + 1 := by
  rcases entries_of_call s c with hsame | ⟨memory, q, -, htakes⟩
  · exact Or.inl hsame
  · obtain ⟨h, hacq⟩ := htakes.acquired
    rw [htakes.capacity]
    exact Pool.capacity_of_acquire hacq

/-! ## The records of a history -/

/-- If a call inserts and fails, then for want of room in the index or of a record. -/
def FailsForRoom (s : Store) (c : StoreCall) : Prop :=
  ∀ memory, s.Inserts memory c → (s.call c).1.isOk = false →
    memory.grants .index ((s.size + 1) * Handle.bytes) = false ∨ (s.entries.acquire memory).isOk = false

/-- All insertions of a history that fail do so for want of room. -/
def FailForRoom : Store → List StoreCall → Prop
  | _, [] => True
  | s, c :: cs => s.FailsForRoom c ∧ FailForRoom (s.call c).2 cs

/-- The most entries at any moment of a history. -/
def peak : Store → List StoreCall → Nat
  | s, [] => s.size
  | s, c :: cs => max s.size (peak (s.call c).2 cs)

theorem size_le_peak (s : Store) (cs : List StoreCall) : s.size ≤ s.peak cs := by
  cases cs with
  | nil => exact Nat.le_refl _
  | cons c cs => exact Nat.le_max_left _ _

/-- A call leaves as many records as there were, or as there are entries now. -/
theorem fills_of_call (hs : s.Lists l) {c : StoreCall} {l' : List Entry} (hs' : (s.call c).2.Lists l')
    (hroom : s.FailsForRoom c) :
    (s.call c).2.entries.capacity = max s.entries.capacity (s.call c).2.size := by
  rw [← hs'.activeCount_eq]
  rcases entries_of_call s c with hsame | ⟨memory, q, hinserts, htakes⟩
  · exact Pool.fills_of_capacity_eq hsame
  · obtain ⟨h, hacq⟩ := htakes.acquired
    by_cases hok : (s.call c).1.isOk = true
    · rw [htakes.capacity, htakes.kept hok]
      exact Pool.fills_of_acquire hs.entries hacq
    · -- there was room for it and a record, so it did not fail
      rcases hroom memory hinserts (eq_false_of_ne_true hok) with hindex | hpool
      · exact absurd htakes.room (by rw [hindex]; nofun)
      · rw [hacq] at hpool
        cases hpool

/-- The induction is on the calls. -/
theorem capacity_eq_max (cs : List StoreCall) {s : Store} {m : Bindings} (hs : s.Models m)
    (hroom : s.FailForRoom cs) :
    (s.after cs).entries.capacity = max s.entries.capacity (s.peak cs) := by
  induction cs generalizing s m with
  | nil =>
    obtain ⟨l, hl, -⟩ := hs
    have htotal := hl.total
    show s.entries.capacity = max s.entries.capacity s.size
    omega
  | cons c cs ih =>
    have hs' := models_call hs c
    have hrest := ih hs' hroom.2
    obtain ⟨l, hl, -⟩ := hs
    obtain ⟨l', hl', -⟩ := hs'
    have hcall := fills_of_call hl hl' hroom.1
    have hpeak := size_le_peak (s.call c).2 cs
    have htotal := hl.total
    show ((s.call c).2.after cs).entries.capacity = max s.entries.capacity (max s.size _)
    omega

/-- A store without entries, and how many records were set aside for it. -/
inductive SetAside : Nat → Store → Prop where
  | empty : SetAside 0 .empty
  | ofCapacity {memory : Memory} {n : Nat} {s : Store} (few : n ≤ 4294967296)
      (built : Store.ofCapacity memory n = .ok s) : SetAside n s

theorem SetAside.initial {n : Nat} (h : SetAside n s) : s.Initial := by
  cases h with
  | empty => exact .empty
  | ofCapacity few built => exact .ofCapacity few built

theorem SetAside.capacity {n : Nat} (h : SetAside n s) : s.entries.capacity = n := by
  cases h with
  | empty => rfl
  | ofCapacity few built =>
    obtain ⟨entries, hpool, rfl⟩ := ofCapacity_cases built
    exact Pool.capacity_of_ofCapacity hpool

/-- The records of a store after some calls. -/
structure Accounts (n : Nat) (s : Store) (cs : List StoreCall) : Prop where
  owned : (s.after cs).Owned
  /-- Whatever is called next, no record is given up, and one is allocated only if none is spare. -/
  grows : ∀ c, ((s.after cs).call c).2.entries.capacity = (s.after cs).entries.capacity ∨
    (s.after cs).spareCount = 0 ∧
      ((s.after cs).call c).2.entries.capacity = (s.after cs).entries.capacity + 1
  /-- As many are allocated as were set aside, or as there were entries at most. -/
  most : s.FailForRoom cs → (s.after cs).size + (s.after cs).spareCount = max n (s.peak cs)

/-- **Every record is live or spare, and none is allocated while one is spare.** -/
theorem records_accounted_for {n : Nat} {s : Store} (h : SetAside n s) (cs : List StoreCall) :
    Accounts n s cs := by
  obtain ⟨m, l, hl, -⟩ := exists_models_after (models_of_initial h.initial) cs
  refine ⟨hl.owned, capacity_of_call _, fun hroom => ?_⟩
  rw [hl.total, capacity_eq_max cs (models_of_initial h.initial) hroom, h.capacity]

/-- A store with one record set aside. -/
def single : Store := { entries := { slots := #[Pool.freshSlot], spare := [0], limit := none }, index := #[] }

/-- Two entries, a third that there is no room for until one of them is deleted, and then no entry. -/
def turnover : List StoreCall :=
  [.set .unbounded (some "b") (.int 1), .set .unbounded (some "a") (.string "x"),
    .set (.ofBlocks 100) (some "c") (.int 2), .remove "b", .set (.ofBlocks 100) (some "c") (.int 2), .clear]

theorem records_accounted_for_turnover :
    SetAside 1 single ∧ single.FailForRoom turnover ∧ Accounts 1 single turnover ∧
      (single.after turnover).spareCount = 2 ∧ (single.after turnover).size = 0 := by
  have haside : SetAside 1 single := @SetAside.ofCapacity .unbounded 1 single (by decide) rfl
  refine ⟨haside, ?_, records_accounted_for haside turnover, by decide +kernel, by decide +kernel⟩
  refine ⟨?_, ?_, ?_, ?_, ?_, ?_, trivial⟩
  · exact fun memory _ hfail => absurd hfail (by decide +kernel)
  · exact fun memory _ hfail => absurd hfail (by decide +kernel)
  · rintro memory ⟨rfl, -, -⟩ -
    exact Or.inr (by decide +kernel)
  · exact fun memory hinserts => hinserts.elim
  · exact fun memory _ hfail => absurd hfail (by decide +kernel)
  · exact fun memory hinserts => hinserts.elim

end EventLoop.Store
