import EventLoop.Pool.Buffer
import EventLoop.Proofs.Pool.Capacity

/-!
# Slots that are set aside

A pool can be made with slots that are spare from the start. They are to be handed out one after another, each at
its own position, so that no two of the objects have anything to do with each other. This is so as long as every
position fits the 32 bits that a handle has for it. A pool refuses to grow beyond that, but it does not refuse to be
made with more slots: then the positions come round and the same handle is handed out twice.

* `Pool.handOut`, `Pool.takeBack` — several objects, one after another.
* `addsAll_of_handOut`, `separate_of_handOut` — what is handed out by a well-formed pool has separate handles.
* `handOut_of_spare` — which handles are handed out while slots are spare.
* `preallocated_iff` — a pool has the slots that it was made with exactly if there are at most 2 ^ 32 of them.
* `handles_come_round` — with more of them, the first handle is handed out again.
-/

namespace EventLoop.Pool

variable {α : Type} [Poolable α]

/-! ## Several objects -/

/-- Hands out a number of objects, one after another. -/
def handOut (memory : Memory) (p : Pool α) : Nat → Except PoolError (List Handle × Pool α)
  | 0 => .ok ([], p)
  | k + 1 =>
    match p.acquire memory with
    | .ok (h, q) => (handOut memory q k).map fun r => (h :: r.1, r.2)
    | .error e => .error e

/-- Takes objects back, one after another, unless a handle is stale when its turn comes. -/
def takeBack (p : Pool α) : List Handle → Option (Pool α)
  | [] => some p
  | h :: hs => (p.release h).bind fun r => takeBack r.2 hs

/-- Objects have nothing to do with each other, wherever their handles stand in a list. -/
structure Separate (hs : List Handle) (p : Pool α) : Prop where
  nodup : hs.Nodup
  contains : ∀ h ∈ hs, p.contains h = true
  /-- A write through one of the handles is not seen through another one. -/
  get? : ∀ (i j : Nat) h g, hs[i]? = some h → hs[j]? = some g → i ≠ j →
    ∀ f, (p.modify h f).get? g = p.get? g
  /-- They are taken back one by one, in any order. -/
  takeBack : ∀ gs, gs.Perm hs → (p.takeBack gs).isSome = true

/-- Objects come in under handles that did not resolve, and nothing else changes. -/
structure AddsAll (p : Pool α) (hs : List Handle) (q : Pool α) : Prop where
  wellFormed : q.WellFormed
  nodup : hs.Nodup
  absent : ∀ h ∈ hs, p.get? h = none
  present : ∀ h ∈ hs, q.contains h = true
  get? : ∀ g, g ∉ hs → q.get? g = p.get? g

variable {p q r : Pool α} {memory : Memory} {n k : Nat} {hs : List Handle}

theorem addsAll_nil (hp : p.WellFormed) : p.AddsAll [] p where
  wellFormed := hp
  nodup := List.nodup_nil
  absent _ hm := absurd hm List.not_mem_nil
  present _ hm := absurd hm List.not_mem_nil
  get? _ _ := rfl

/-- One object comes in, and then others. -/
theorem Adds.addsAll {h : Handle} {v : α} (ha : p.Adds h v q) (hq : q.AddsAll hs r) : p.AddsAll (h :: hs) r := by
  have hv : q.get? h = some v := by rw [ha.get?, if_pos rfl]
  have hnew : h ∉ hs := by
    intro hm
    rw [hq.absent h hm] at hv
    cases hv
  have hother : ∀ g, g ≠ h → q.get? g = p.get? g := fun g hg => by rw [ha.get?, if_neg hg]
  refine ⟨hq.wellFormed, List.nodup_cons.mpr ⟨hnew, hq.nodup⟩, ?_, ?_, ?_⟩
  · intro g hm
    rcases List.mem_cons.mp hm with rfl | hm
    · exact ha.absent
    · rw [← hother g fun he => hnew (he ▸ hm)]
      exact hq.absent g hm
  · intro g hm
    rcases List.mem_cons.mp hm with rfl | hm
    · exact contains_eq_true.mpr ⟨v, by rw [hq.get? g hnew, hv]⟩
    · exact hq.present g hm
  · intro g hg
    obtain ⟨hne, hg⟩ := not_or.mp (mt List.mem_cons.mpr hg)
    rw [hq.get? g hg, hother g hne]

/-- **Objects that are handed out one after another are new, each of them.** The induction is on their number. -/
theorem addsAll_of_handOut (hp : p.WellFormed) (ho : p.handOut memory k = .ok (hs, q)) : p.AddsAll hs q := by
  induction k generalizing p hs with
  | zero =>
    cases ho
    exact addsAll_nil hp
  | succ k ih =>
    unfold handOut at ho
    split at ho
    · next h p' hacq =>
      obtain ⟨v, -, hadds⟩ := adds_of_acquire hp hacq
      cases hrest : p'.handOut memory k with
      | error e =>
        rw [hrest] at ho
        cases ho
      | ok rest =>
        rw [hrest] at ho
        cases ho
        exact hadds.addsAll (ih hadds.wellFormed hrest)
    · cases ho

/-- Objects in use are taken back one by one. The induction is on their list. -/
theorem takeBack_isSome (hp : p.WellFormed) (hnodup : hs.Nodup) (hall : ∀ h ∈ hs, p.contains h = true) :
    (p.takeBack hs).isSome = true := by
  induction hs generalizing p with
  | nil => rfl
  | cons h hs ih =>
    obtain ⟨v, hv⟩ := contains_eq_true.mp (hall h List.mem_cons_self)
    obtain ⟨hnew, hnodup⟩ := List.nodup_cons.mp hnodup
    cases hr : p.release h with
    | none =>
      rw [release_eq_none.mp hr] at hv
      cases hv
    | some taken =>
      obtain ⟨w, q⟩ := taken
      have hdrops := (drops_of_release hp hr).2
      rw [takeBack, hr, Option.bind_some]
      refine ih hdrops.wellFormed hnodup fun g hg => ?_
      have hne : g ≠ h := fun he => hnew (he ▸ hg)
      rw [contains, hdrops.get?, if_neg hne]
      exact hall g (List.mem_cons_of_mem h hg)

/-- **What a well-formed pool hands out has nothing to do with each other.** -/
theorem separate_of_handOut (hp : p.WellFormed) (ho : p.handOut memory k = .ok (hs, q)) : q.Separate hs := by
  have hall := addsAll_of_handOut hp ho
  refine ⟨hall.nodup, hall.present, fun i j h g hi hj hij f => ?_, fun gs hperm => ?_⟩
  · have hne : g ≠ h := by
      rintro rfl
      refine hij ((List.getElem?_inj ?_ hall.nodup).mp (hi.trans hj.symm))
      exact (List.getElem?_eq_some_iff.mp hi).1
    rw [get?_modify, if_neg hne]
  · exact takeBack_isSome hall.wellFormed (hperm.nodup_iff.mpr hall.nodup) fun h hm =>
      hall.present h (hperm.mem_iff.mp hm)

/-! ## Handing out spare slots -/

/-- While slots are spare they are handed out from the head of the spare list, whatever the pool is otherwise and
whether or not memory is granted. The induction is on the number of objects. -/
theorem handOut_of_spare (memory : Memory) (hk : k ≤ p.spare.length) :
    ∃ q, p.handOut memory k = .ok ((p.spare.take k).map fun i => ⟨i, p.generationAt i⟩, q) := by
  induction k generalizing p with
  | zero => exact ⟨p, rfl⟩
  | succ k ih =>
    cases hspare : p.spare with
    | nil =>
      rw [hspare] at hk
      exact absurd hk (Nat.not_succ_le_zero k)
    | cons i rest =>
      rw [hspare, List.length_cons] at hk
      have hacq : p.acquire memory = .ok (activate { p with spare := rest } i) := by
        unfold acquire
        rw [hspare]
      have hgen : ∀ j, (activate { p with spare := rest } i).2.generationAt j = p.generationAt j := fun j => by
        simp [generationAt, activate_getElem?, Function.comp_def]
      obtain ⟨q, hq⟩ := ih (p := (activate { p with spare := rest } i).2) (Nat.le_of_succ_le_succ hk)
      refine ⟨q, ?_⟩
      unfold handOut
      rw [hacq]
      dsimp only
      rw [hq]
      simp only [hgen]
      rfl

/-- A pool that was made with slots hands them out in the order of their positions, each of which is cut to 32
bits. -/
theorem handOut_ofCapacity {granted : Memory} (made : ofCapacity granted n = .ok p) (memory : Memory) (hk : k ≤ n) :
    ∃ q, p.handOut memory k = .ok ((List.range k).map fun i => ⟨UInt32.ofNat i, 0⟩, q) := by
  have hspare := spare_of_ofCapacity made
  obtain ⟨q, hq⟩ := handOut_of_spare (p := p) memory (k := k) (by
    rw [hspare, List.length_map, List.length_range]
    exact hk)
  refine ⟨q, hq.trans ?_⟩
  have htake : (List.range n).take k = List.range k := by rw [List.take_range, Nat.min_eq_left hk]
  simp only [generationAt_ofCapacity made, hspare, ← List.map_take, htake, List.map_map, Function.comp_def]

/-! ## Pools made with slots -/

/-- A pool is made with any number of slots, given the memory. -/
theorem exists_ofCapacity (hslots : memory.grants .slots (n * Poolable.slotBytes α) = true)
    (hspares : memory.grants .spares (n * 4) = true) : ∃ p : Pool α, ofCapacity memory n = .ok p := by
  unfold ofCapacity
  rw [hslots, hspares]
  exact ⟨_, rfl⟩

/-- The pool has a number of slots that are all spare, each at its own position, and hands them out one after
another as separate objects. -/
structure Preallocated (n : Nat) (p : Pool α) : Prop where
  capacity : p.capacity = n
  spare : p.spare.map UInt32.toNat = List.range n
  handOut : ∀ memory k, k ≤ n → ∃ hs q, p.handOut memory k = .ok (hs, q) ∧
    hs.map (fun h => h.index.toNat) = List.range k ∧ q.Separate hs

/-- **A pool has the slots that it was made with exactly if there are at most 2 ^ 32 of them.** -/
theorem preallocated_iff (made : ofCapacity memory n = .ok p) : p.Preallocated n ↔ n ≤ 4294967296 := by
  constructor
  · intro hp
    by_contra hmany
    -- no word of 32 bits is the position of the last slot but 2 ^ 32
    have hmem : 4294967296 ∈ p.spare.map UInt32.toNat := by
      rw [hp.spare]
      exact List.mem_range.mpr (Nat.not_le.mp hmany)
    obtain ⟨i, -, hi⟩ := List.mem_map.mp hmem
    exact absurd hi (Nat.ne_of_lt i.toNat_lt_size)
  · intro hn
    refine ⟨capacity_of_ofCapacity made, positions_of_ofCapacity hn made, fun memory k hk => ?_⟩
    obtain ⟨q, hq⟩ := handOut_ofCapacity made memory hk
    refine ⟨_, q, hq, ?_, separate_of_handOut (wellFormed_ofCapacity hn made) hq⟩
    rw [List.map_map]
    exact map_toNat_ofNat (Nat.le_trans hk hn)

/-- **With more slots, handles come round**: objects 2 ^ 32 apart have the same handle. -/
theorem handles_come_round (made : ofCapacity memory n = .ok p) {i : Nat} (hi : i + 4294967296 < n) :
    ∃ hs q, p.handOut memory n = .ok (hs, q) ∧ hs[i]? = some ⟨UInt32.ofNat i, 0⟩ ∧
      hs[i + 4294967296]? = hs[i]? := by
  obtain ⟨q, hq⟩ := handOut_ofCapacity made memory (Nat.le_refl n)
  have hround : UInt32.ofNat (i + 4294967296) = UInt32.ofNat i := by
    rw [← UInt32.toNat_inj, UInt32.toNat_ofNat', UInt32.toNat_ofNat']
    omega
  refine ⟨_, q, hq, ?_, ?_⟩
  · rw [List.getElem?_map, List.getElem?_range (by omega), Option.map_some]
  · rw [List.getElem?_map, List.getElem?_map, List.getElem?_range hi, List.getElem?_range (by omega),
      Option.map_some, Option.map_some, hround]

/-- Where every block is granted that can be addressed, a pool is made with one slot too many: the last buffer that
it hands out has the handle of the first. -/
theorem last_buffer_has_first_handle :
    ∃ p : Pool Buffer, ofCapacity (.ofBlocks 9223372036854775807) 4294967297 = .ok p ∧
      ¬p.Preallocated 4294967297 ∧
      ∃ hs q, p.handOut (.ofBlocks 9223372036854775807) 4294967297 = .ok (hs, q) ∧
        hs[0]? = some ⟨0, 0⟩ ∧ hs[4294967296]? = some ⟨0, 0⟩ := by
  obtain ⟨p, made⟩ : ∃ p : Pool Buffer, ofCapacity (.ofBlocks 9223372036854775807) 4294967297 = .ok p :=
    exists_ofCapacity (by decide +kernel) (by decide +kernel)
  obtain ⟨hs, q, hq, hfirst, hround⟩ := handles_come_round made (i := 0) (by decide)
  refine ⟨p, made, fun hp => ?_, hs, q, hq, hfirst, hround.trans hfirst⟩
  exact absurd ((preallocated_iff made).mp hp) (by decide)

end EventLoop.Pool
