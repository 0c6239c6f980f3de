import EventLoop.Proofs.Pool.Lifetime
import EventLoop.Proofs.Pool.Refusal

/-!
# In which order slots are used again

A slot that becomes spare goes to the end of the spare list, and an object is handed out in the slot at its head. A
pool grows by one slot, and only when none is spare; when it cannot, nothing happens. So the slots are used again in
the order in which they became spare, and there are no more of them than were set aside or in use at one time.

* `call_of_spare`, `call_of_room`, `call_of_full` — the three things that may come of asking for an object.
* `serves_of_call` — what any call does to the slots (`Pool.Serves`).
* `becameSpare_eq` — what became spare is what was used again, in the same order, and what still waits.
* `reuses_before_growing` — all of it, with the number of slots after any calls (`Pool.Thrifty`).
-/

namespace EventLoop.Pool

variable {α : Type}

/-! ## Asking for an object -/

/-- There are as many slots as the pool may have, by its bound or by the width of a position. -/
def IsFull (p : Pool α) : Prop :=
  (∃ limit, p.limit = some limit ∧ limit ≤ p.capacity) ∨ 4294967296 ≤ p.capacity

/-- A call to which every reservation is granted. -/
def Call.Granted : Call α → Prop
  | .acquire memory _ => ∀ what bytes, memory.grants what bytes = true
  | _ => True

variable [Poolable α]

/-- Given the memory, a pool can grow unless it is full. -/
theorem canGrow_iff {memory : Memory} (hmem : ∀ what bytes, memory.grants what bytes = true) (p : Pool α) :
    p.canGrow memory = true ↔ ¬p.IsFull := by
  unfold canGrow IsFull capacity
  rw [hmem, hmem, Bool.and_true, Bool.and_true, Bool.and_eq_true, decide_eq_true_eq, not_or, Nat.not_le]
  refine and_congr_left' ?_
  cases p.limit with
  | none => simp
  | some limit => simp

variable {p : Pool α} {memory : Memory} (init : α → α)

/-- What has been spare longest is handed out, whatever the bound is, … -/
theorem call_of_spare (memory : Memory) {i : UInt32} {rest : List UInt32} (hspare : p.spare = i :: rest) :
    ∃ h, (p.call (.acquire memory init)).1 = .handed h ∧ h.index = i ∧
      (p.call (.acquire memory init)).2.spare = rest ∧
      (p.call (.acquire memory init)).2.capacity = p.capacity := by
  unfold call acquire
  rw [hspare]
  refine ⟨_, rfl, rfl, spare_modify _ _ _, ?_⟩
  dsimp only
  rw [capacity_modify]
  simp [capacity, activate]

/-- … a new slot is taken if none is spare, … -/
theorem call_of_room (hmem : ∀ what bytes, memory.grants what bytes = true) (hspare : p.spare = [])
    (hroom : ¬p.IsFull) :
    ∃ h, (p.call (.acquire memory init)).1 = .handed h ∧ h.index.toNat = p.capacity ∧
      (p.call (.acquire memory init)).2.spare = [] ∧
      (p.call (.acquire memory init)).2.capacity = p.capacity + 1 := by
  have hlt : p.capacity < UInt32.size := Nat.not_le.mp fun hle => hroom (Or.inr hle)
  have hacq : p.acquire memory =
      .ok (activate { p with slots := p.slots.push freshSlot } (UInt32.ofNat p.slots.size)) := by
    unfold acquire
    rw [hspare]
    exact if_pos ((canGrow_iff hmem p).mpr hroom)
  unfold call
  dsimp only
  rw [hacq]
  refine ⟨_, rfl, UInt32.toNat_ofNat_of_lt' hlt, (spare_modify _ _ _).trans hspare, ?_⟩
  dsimp only
  rw [capacity_modify]
  simp [capacity, activate]

/-- … and nothing happens if the pool is full, too. -/
theorem call_of_full (hmem : ∀ what bytes, memory.grants what bytes = true) (hspare : p.spare = [])
    (hfull : p.IsFull) : p.call (.acquire memory init) = (.refused .outOfMemory, p) := by
  have hacq : p.acquire memory = .error .outOfMemory := by
    unfold acquire
    rw [hspare]
    exact if_neg fun hgrow => (canGrow_iff hmem p).mp hgrow hfull
  unfold call
  dsimp only
  rw [hacq]

/-- An object is refused exactly if no slot is spare and the pool is full. -/
theorem refused_iff (hmem : ∀ what bytes, memory.grants what bytes = true) :
    (p.call (.acquire memory init)).1 = .refused .outOfMemory ↔ p.spare = [] ∧ p.IsFull := by
  constructor
  · intro hrefused
    cases hspare : p.spare with
    | cons i rest =>
      obtain ⟨h, hhanded, -⟩ := call_of_spare init memory hspare
      rw [hhanded] at hrefused
      cases hrefused
    | nil =>
      refine ⟨rfl, Classical.byContradiction fun hroom => ?_⟩
      obtain ⟨h, hhanded, -⟩ := call_of_room init hmem hspare hroom
      rw [hhanded] at hrefused
      cases hrefused
  · rintro ⟨hspare, hfull⟩
    rw [call_of_full init hmem hspare hfull]

/-! ## Any call -/

/-- What a call does to the slots of a pool. -/
structure Serves (p : Pool α) (c : Call α) : Prop where
  /-- The slot that has been spare longest is used again, … -/
  reuses : ∀ memory init i rest, c = .acquire memory init → p.spare = i :: rest →
    ∃ h, (p.call c).1 = .handed h ∧ h.index = i ∧ (p.call c).2.spare = rest ∧
      (p.call c).2.capacity = p.capacity
  /-- … and only if none is spare there is one more, which comes last. -/
  grows : ∀ memory init, c = .acquire memory init → p.spare = [] → ¬p.IsFull →
    ∃ h, (p.call c).1 = .handed h ∧ h.index.toNat = p.capacity ∧ (p.call c).2.spare = [] ∧
      (p.call c).2.capacity = p.capacity + 1
  /-- An object is refused exactly if none is spare and there may be no more, and then nothing happens. -/
  refuses : ∀ memory init, c = .acquire memory init →
    ((p.call c).1 = .refused .outOfMemory ↔ p.spare = [] ∧ p.IsFull)
  unchanged : (p.call c).1 = .refused .outOfMemory → (p.call c).2 = p
  /-- The slot of what is given back goes to the end. -/
  returns : ∀ h, c.freed? (p.call c).1 = some h → (p.call c).2.spare = p.spare ++ [h.index]
  /-- A bound moves nothing that is in use or spare, … -/
  bounds : ∀ limit, c = .limit limit → (p.call c).2 = { p with limit }
  /-- … and only asking for an object changes the number of slots. -/
  keeps : (∀ memory init, c ≠ .acquire memory init) → (p.call c).2.capacity = p.capacity

/-- Giving back is in vain, or recycles the object in its slot. -/
theorem call_release (p : Pool α) (h : Handle) (leave : α → α) :
    p.call (.release h leave) = (.lent none, p) ∨
      ∃ v, p.call (.release h leave) = (.lent (some v), (p.modify h leave).released h) := by
  unfold call
  dsimp only
  rw [releaseWith_eq]
  cases p.get? h with
  | none => exact Or.inl rfl
  | some v => exact Or.inr ⟨v, rfl⟩

theorem capacity_released (p : Pool α) (h : Handle) : (p.released h).capacity = p.capacity := by
  simp [released, capacity]

/-- Whatever is refused, the pool stays as it was. -/
theorem call_of_refused {c : Call α} {e : PoolError} (hrefused : (p.call c).1 = .refused e) :
    (p.call c).2 = p := by
  cases c with
  | acquire memory init =>
    unfold call at hrefused ⊢
    dsimp only at hrefused ⊢
    split at hrefused
    · cases hrefused
    · rfl
  | release h leave =>
    rcases call_release p h leave with hcall | ⟨v, hcall⟩
    · rw [hcall]
    · rw [hcall] at hrefused
      cases hrefused
  | write h f => cases hrefused
  | limit limit => cases hrefused
  | clear => cases hrefused

/-- What is given back waits at the end of the spare list. -/
theorem spare_of_freed {c : Call α} {h : Handle} (hfreed : c.freed? (p.call c).1 = some h) :
    (p.call c).2.spare = p.spare ++ [h.index] := by
  cases c with
  | release k leave =>
    rcases call_release p k leave with hcall | ⟨v, hcall⟩
    · rw [hcall] at hfreed
      cases hfreed
    · rw [hcall] at hfreed ⊢
      cases hfreed
      exact congrArg (· ++ [h.index]) (spare_modify p h leave)
  | _ => cases hfreed

theorem capacity_of_call {c : Call α} (hc : c ≠ .clear) (hkeeps : ∀ memory init, c ≠ .acquire memory init) :
    (p.call c).2.capacity = p.capacity := by
  cases c with
  | acquire memory init => exact absurd rfl (hkeeps memory init)
  | write h f => exact capacity_modify p h f
  | release h leave =>
    rcases call_release p h leave with hcall | ⟨v, hcall⟩
    · rw [hcall]
    · rw [hcall, capacity_released, capacity_modify]
  | limit limit => rfl
  | clear => exact absurd rfl hc

/-- **A call uses the slot again that has been spare longest, and takes a new one only if none is spare.** -/
theorem serves_of_call {c : Call α} (hc : c ≠ .clear) (hgranted : c.Granted) : p.Serves c where
  reuses := by
    rintro memory init i rest rfl hspare
    exact call_of_spare init memory hspare
  grows := by
    rintro memory init rfl hspare hroom
    exact call_of_room init hgranted hspare hroom
  refuses := by
    rintro memory init rfl
    exact refused_iff init hgranted
  unchanged := call_of_refused
  returns _ := spare_of_freed
  bounds := by
    rintro limit rfl
    rfl
  keeps := capacity_of_call hc

/-! ## The spare list as a queue -/

/-- The slot that becomes spare by a call. -/
def vacated (p : Pool α) (c : Call α) : List UInt32 := ((c.freed? (p.call c).1).map Handle.index).toList

/-- The slot that a call uses again, if it hands an object out while a slot is spare. -/
def resumed (p : Pool α) (c : Call α) : List UInt32 :=
  if p.spare = [] then [] else ((p.call c).1.given?.map Handle.index).toList

/-- **A slot that becomes spare goes to the end of the spare list, and one that is used again is taken off its
head.** -/
theorem spare_of_call {c : Call α} (hc : c ≠ .clear) :
    p.spare ++ p.vacated c = p.resumed c ++ (p.call c).2.spare := by
  unfold vacated resumed
  cases c with
  | acquire memory init =>
    unfold call
    dsimp only
    split
    · next h q hok =>
      show p.spare ++ [] = (if p.spare = [] then [] else [h.index]) ++ (q.modify h init).spare
      rw [spare_modify, List.append_nil]
      rcases acquire_cases hok with ⟨hspare, -⟩ | ⟨hspare, hnone, -⟩
      · rw [hspare, if_neg (List.cons_ne_nil _ _), List.singleton_append]
      · rw [hspare, hnone, if_pos rfl, List.nil_append]
    · simp [Call.freed?, Answer.given?]
  | write h f => simp [call, Call.freed?, Answer.given?]
  | release h leave =>
    rcases call_release p h leave with hcall | ⟨v, hcall⟩
    · simp [hcall, Call.freed?, Answer.given?]
    · simp [hcall, Call.freed?, Answer.given?, released]
  | limit limit => simp [call, setLimit, Call.freed?, Answer.given?]
  | clear => exact absurd rfl hc

/-- The slots that are spare at first or become spare in a number of calls, in this order. -/
def becameSpare (p : Pool α) (cs : Nat → Call α) : Nat → List UInt32
  | 0 => p.spare
  | k + 1 => becameSpare p cs k ++ (p.after cs k).vacated (cs k)

/-- The slots that are used again in a number of calls, in this order. -/
def usedAgain (p : Pool α) (cs : Nat → Call α) : Nat → List UInt32
  | 0 => []
  | k + 1 => usedAgain p cs k ++ (p.after cs k).resumed (cs k)

/-- **The slots are used again in the order in which they became spare**, and those that still wait follow in the
same order. The induction is on the number of calls. -/
theorem becameSpare_eq {cs : Nat → Call α} (hcs : ∀ k, cs k ≠ .clear) (k : Nat) :
    p.becameSpare cs k = p.usedAgain cs k ++ (p.after cs k).spare := by
  induction k with
  | zero => rfl
  | succ k ih =>
    calc p.becameSpare cs (k + 1)
        = p.usedAgain cs k ++ ((p.after cs k).spare ++ (p.after cs k).vacated (cs k)) := by
          rw [becameSpare, ih, List.append_assoc]
      _ = p.usedAgain cs k ++ ((p.after cs k).resumed (cs k) ++ (p.after cs (k + 1)).spare) := by
          rw [spare_of_call (hcs k)]
          rfl
      _ = p.usedAgain cs (k + 1) ++ (p.after cs (k + 1)).spare := (List.append_assoc _ _ _).symm

/-! ## The number of slots -/

theorem fills_of_call (hp : p.WellFormed) {c : Call α} (hc : c ≠ .clear) : p.Fills (p.call c).2 := by
  cases c with
  | acquire memory init =>
    unfold call
    dsimp only
    split
    · next h q hok => exact (fills_of_acquire hp hok).modify h init
    · exact fills_of_capacity_eq rfl
  | _ => exact fills_of_capacity_eq (capacity_of_call hc fun _ _ he => nomatch he)

/-- The most objects in use at any moment of a number of calls. -/
def peak (p : Pool α) (cs : Nat → Call α) : Nat → Nat
  | 0 => p.activeCount
  | k + 1 => max (peak p cs k) (p.after cs (k + 1)).activeCount

/-- A pool as it is made, with a number of slots set aside. -/
inductive SetAside : Nat → Pool α → Prop where
  | empty : SetAside 0 empty
  | ofCapacity {memory : Memory} {n : Nat} {p : Pool α} (few : n ≤ 4294967296)
      (made : ofCapacity memory n = .ok p) : SetAside n p

namespace SetAside

variable {n : Nat}

theorem built (hp : SetAside n p) : p.Built := by
  cases hp with
  | empty => exact .empty
  | ofCapacity few made => exact .ofCapacity few made

theorem capacity_eq (hp : SetAside n p) : p.capacity = n := by
  cases hp with
  | empty => rfl
  | ofCapacity _ made => exact capacity_of_ofCapacity made

/-- The slots that are set aside are spare in the order of their positions. -/
theorem spare_eq (hp : SetAside n p) : p.spare.map UInt32.toNat = List.range n := by
  cases hp with
  | empty => rfl
  | ofCapacity few made => exact positions_of_ofCapacity few made

end SetAside

/-! ## The course of a pool -/

/-- How a pool uses its slots, at a call of a sequence and up to it. -/
structure Thrifty (n : Nat) (p : Pool α) (cs : Nat → Call α) (k : Nat) : Prop where
  /-- The slots that are set aside are spare first, in the order of their positions. -/
  initial : p.spare.map UInt32.toNat = List.range n
  serves : (p.after cs k).Serves (cs k)
  /-- First in, first out. -/
  fifo : p.becameSpare cs k = p.usedAgain cs k ++ (p.after cs k).spare
  /-- There are no more slots than were set aside or in use at one time. -/
  capacity : (p.after cs k).capacity = max n (p.peak cs k)

/-- **A pool uses its slots again in the order in which they became spare, before it takes a new one.** -/
theorem reuses_before_growing {n : Nat} (hp : SetAside n p) {cs : Nat → Call α} (hcs : ∀ k, cs k ≠ .clear)
    (hgranted : ∀ k, (cs k).Granted) (k : Nat) : Thrifty n p cs k where
  initial := hp.spare_eq
  serves := serves_of_call (hcs k) (hgranted k)
  fifo := becameSpare_eq hcs k
  capacity := by
    rw [← hp.capacity_eq]
    exact capacity_eq_max (p.after cs) rfl (fun _ => rfl) fun j _ =>
      fills_of_call (wellFormed_after hp.built.wellFormed cs j) (hcs j)

/-- A buffer set aside and one more, both given back under a bound that is lowered in between. -/
def lowered : Nat → Call Buffer
  | 0 => .acquire .unbounded id
  | 1 => .acquire .unbounded id
  | 2 => .limit (some 1)
  | 3 => .acquire .unbounded id
  | 4 => .release { index := 1, generation := 0 } id
  | 5 => .release { index := 0, generation := 0 } id
  | _ => .acquire .unbounded id

/-- The pool with one buffer set aside. -/
def oneBuffer : Pool Buffer := { slots := #[freshSlot], spare := [0], limit := none }

/-- The bound refuses a third buffer but not the second one, which was given back first. -/
theorem thrifty_under_lowered_bound :
    Thrifty 1 oneBuffer lowered 7 ∧ oneBuffer.usedAgain lowered 7 = [0, 1] ∧
      oneBuffer.peak lowered 7 = 2 ∧
      ((oneBuffer.after lowered 3).call (lowered 3)).1 = .refused .outOfMemory := by
  have haside : SetAside 1 oneBuffer := @SetAside.ofCapacity _ _ .unbounded 1 oneBuffer (by decide) rfl
  refine ⟨reuses_before_growing haside ?_ ?_ 7, ?_, ?_, ?_⟩
  · rintro (_ | _ | _ | _ | _ | _ | k) <;> intro hc <;> cases hc
  · rintro (_ | _ | _ | _ | _ | _ | k) <;> first | exact trivial | exact fun _ _ => rfl
  · decide +kernel
  · decide +kernel
  · decide +kernel

end EventLoop.Pool
