import EventLoop.Pool.Buffer
import EventLoop.Proofs.Pool.Handles
import Mathlib.Data.List.Induction

/-!
# Pools under calls

A pool is used by calls, with whatever handles: live ones, stale ones, and ones that were never handed out.
`Pool.Call` lists the calls, and `Pool.Effect` says what each of them does.

* `effect_of_call` — a call hands an object out, takes one back, or writes to objects in place.
* `inactive_of_call` — what is not in use after a call was not in use before, or has just been recycled.
* `represented_at_every_moment` — the spare list and the slots agree, whatever is called.
-/

namespace EventLoop.Pool

variable {α : Type}

/-! ## Calls -/

/-- A call on a pool. -/
inductive Call (α : Type) where
  /-- Asks for an object, given the reservations that are granted, and writes to it at once. -/
  | acquire (memory : Memory) (init : α → α)
  /-- Writes to the object of a handle. -/
  | write (h : Handle) (f : α → α)
  /-- Gives the object of a handle back after a last look, which may change it. -/
  | release (h : Handle) (leave : α → α)
  /-- Bounds the growth of the pool. -/
  | limit (limit : Option Nat)
  | clear

/-- What a call answers. -/
inductive Answer (α : Type) where
  | handed (h : Handle)
  | refused (e : PoolError)
  /-- The object that the call got to see; none if the handle is stale. -/
  | lent (v : Option α)
  | done
  deriving DecidableEq

/-- A call: its answer, and the pool afterwards. -/
def call [Poolable α] (p : Pool α) : Call α → Answer α × Pool α
  | .acquire memory init =>
    match p.acquire memory with
    | .ok (h, q) => (.handed h, q.modify h init)
    | .error e => (.refused e, p)
  | .write h f => (.lent (p.get? h), p.modify h f)
  | .release h leave =>
    match p.releaseWith h fun v => (v, leave v) with
    | some (v, q) => (.lent (some v), q)
    | none => (.lent none, p)
  | .limit limit => (.done, p.setLimit limit)
  | .clear => (.done, p.clear)

/-- What a call writes to an object as it hands it out. -/
def Call.init : Call α → α → α
  | .acquire _ init => init
  | _ => id

/-- What a call writes to the object of a handle. -/
def Call.through (h : Handle) : Call α → α → α
  | .write k f => fun v => if h = k then f v else v
  | _ => id

/-- The handle that an answer hands out. -/
def Answer.given? : Answer α → Option Handle
  | .handed h => some h
  | _ => none

/-- The handle that a call gives back, by what it was answered. -/
def Call.freed? : Call α → Answer α → Option Handle
  | .release h _, .lent (some _) => some h
  | _, _ => none

/-! ## What a call does -/

theorem inactive_of_modify {p : Pool α} {h : Handle} {f : α → α} {i : Nat} {s : Slot α}
    (hs : (p.modify h f).slots[i]? = some s) (ha : s.active = false) : p.slots[i]? = some s := by
  rw [slots_modify_getElem?] at hs
  obtain ⟨t, ht, rfl⟩ := Option.map_eq_some_iff.mp hs
  -- an inactive slot is not the one written to
  have hnot : ¬(i = h.index.toNat ∧ p.contains h = true) := by
    rintro ⟨rfl, hc⟩
    obtain ⟨v, hv⟩ := contains_eq_true.mp hc
    obtain ⟨u, hu, hact, -⟩ := get?_eq_some.mp hv
    rw [ht] at hu
    cases hu
    exact absurd (hact.symm.trans ha) Bool.noConfusion
  simpa only [if_neg hnot] using ht

variable [Poolable α]

/-- What a call does to a pool, by the handle that it hands out and the one that it gives back. -/
inductive Effect (p : Pool α) (c : Call α) : Option Handle → Option Handle → Pool α → Prop where
  | adds {h : Handle} {v : α} {q : Pool α} (idle : IsIdle v) (adds : p.Adds h (c.init v) q) :
      Effect p c (some h) none q
  | drops {h : Handle} {q : Pool α} (drops : p.Drops h q) : Effect p c none (some h) q
  | writes {q : Pool α} (writes : p.Writes (fun h => c.through h) q) : Effect p c none none q

theorem Effect.wellFormed {p q : Pool α} {c : Call α} {given freed : Option Handle}
    (he : Effect p c given freed q) : q.WellFormed := by
  cases he with
  | adds _ adds => exact adds.wellFormed
  | drops drops => exact drops.wellFormed
  | writes writes => exact writes.wellFormed

/-- Giving back with a last look comes to writing and then giving back. -/
theorem releaseWith_eq {β : Type} (p : Pool α) (h : Handle) (extract : α → β × α) :
    p.releaseWith h extract =
      (p.get? h).map fun v => ((extract v).1, (p.modify h fun v => (extract v).2).released h) := by
  unfold releaseWith
  cases hv : p.get? h with
  | none => rfl
  | some v =>
    have hc : p.contains h = true := contains_eq_true.mpr ⟨v, hv⟩
    have hslots : p.slots.modify h.index.toNat (fun s : Slot α =>
          { generation := s.generation + 1, active := false
            value := Poolable.recycle (extract s.value).2 }) =
        (p.slots.modify h.index.toNat fun s => { s with value := (extract s.value).2 }).modify
          h.index.toNat fun s =>
            { generation := s.generation + 1, active := false, value := Poolable.recycle s.value } := by
      refine Array.ext_getElem? fun i => ?_
      simp only [Array.getElem?_modify]
      by_cases hi : h.index.toNat = i
      · simp [hi, Function.comp_def]
      · simp [hi]
    unfold released modify
    rw [if_pos hc, Option.map_some, Option.map_some, hslots]

theorem drops_of_releaseWith {β : Type} {p q : Pool α} {h : Handle} {extract : α → β × α} {b : β}
    (hp : p.WellFormed) (hr : p.releaseWith h extract = some (b, q)) :
    (∃ v, p.get? h = some v ∧ b = (extract v).1) ∧ p.Drops h q := by
  rw [releaseWith_eq] at hr
  obtain ⟨v, hv, he⟩ := Option.map_eq_some_iff.mp hr
  obtain ⟨rfl, rfl⟩ := Prod.mk.inj he
  have hw := writes_of_modify hp h fun v => (extract v).2
  have hget : (p.modify h fun v => (extract v).2).get? h = some (extract v).2 := by
    rw [get?_modify, if_pos rfl, hv]
    rfl
  have hrel : (p.modify h fun v => (extract v).2).release h =
      some ((extract v).2, (p.modify h fun v => (extract v).2).released h) := by
    rw [release, releaseWith, hget]
    rfl
  have hd := (drops_of_release hw.wellFormed hrel).2
  refine ⟨⟨v, hv, rfl⟩, hd.wellFormed, contains_eq_true.mpr ⟨v, hv⟩, fun k => ?_, fun i => ?_, ?_⟩
  · rw [hd.get?, get?_modify]
    split <;> rfl
  · rw [hd.generationAt, hw.generationAt]
  · rw [hd.activeCount, hw.activeCount]

theorem writes_of_setLimit {p : Pool α} (hp : p.WellFormed) (limit : Option Nat) :
    p.Writes (fun _ v => v) (p.setLimit limit) where
  wellFormed := ⟨hp.size_le, hp.nodup, hp.mem_spare, hp.idle⟩
  get? _ := Option.map_id_apply.symm
  generationAt _ := rfl
  activeCount := rfl

theorem wellFormed_clear (p : Pool α) : p.clear.WellFormed where
  size_le := Nat.zero_le _
  nodup := List.nodup_nil
  mem_spare i := by simp [clear]
  idle i s hs _ := by simp [clear] at hs

/-- **A call hands an object out, takes one back, or writes to objects in place.** -/
theorem effect_of_call {p : Pool α} (hp : p.WellFormed) {c : Call α} (hc : c ≠ .clear) :
    Effect p c (p.call c).1.given? (c.freed? (p.call c).1) (p.call c).2 := by
  cases c with
  | acquire memory init =>
    unfold call
    dsimp only
    split
    · next h q hok =>
      obtain ⟨v, hidle, hadds⟩ := adds_of_acquire hp hok
      exact .adds hidle (hadds.modify init)
    · exact .writes (Writes.refl hp)
  | write h f => exact .writes (writes_of_modify hp h f)
  | release h leave =>
    unfold call
    dsimp only
    split
    · next v q hr => exact .drops (drops_of_releaseWith hp hr).2
    · exact .writes (Writes.refl hp)
  | limit limit => exact .writes (writes_of_setLimit hp limit)
  | clear => exact absurd rfl hc

theorem wellFormed_call {p : Pool α} (hp : p.WellFormed) (c : Call α) : (p.call c).2.WellFormed := by
  by_cases hc : c = .clear
  · rw [hc]
    exact wellFormed_clear p
  · exact (effect_of_call hp hc).wellFormed

/-! ## Pools in the course of calls -/

/-- A pool without objects in use: one without slots, or with at most 2 ^ 32 spare ones. -/
inductive Built : Pool α → Prop where
  | empty : Built .empty
  | ofCapacity {memory : Memory} {capacity : Nat} {p : Pool α} (few : capacity ≤ 4294967296)
      (built : Pool.ofCapacity memory capacity = .ok p) : Built p

theorem Built.wellFormed {p : Pool α} (hp : p.Built) : p.WellFormed := by
  cases hp with
  | empty => exact wellFormed_empty
  | ofCapacity few built => exact wellFormed_ofCapacity few built

/-- The pool after a number of calls. -/
def after (p : Pool α) (cs : Nat → Call α) : Nat → Pool α
  | 0 => p
  | k + 1 => ((after p cs k).call (cs k)).2

/-- The induction is on the number of calls. -/
theorem wellFormed_after {p : Pool α} (hp : p.WellFormed) (cs : Nat → Call α) :
    ∀ n, (p.after cs n).WellFormed
  | 0 => hp
  | n + 1 => wellFormed_call (wellFormed_after hp cs n) (cs n)

/-! ## What is not in use -/

theorem inactive_of_acquire {memory : Memory} {p q : Pool α} {h : Handle}
    (hok : p.acquire memory = .ok (h, q)) {i : Nat} {s : Slot α} (hs : q.slots[i]? = some s)
    (ha : s.active = false) : p.slots[i]? = some s := by
  -- the slot that is handed out is active afterwards, a new one included
  have hother : ∀ {r : Pool α} {index : UInt32}, (activate r index).2 = q →
      r.slots[i]? = some s ∧ i ≠ index.toNat := by
    rintro r index rfl
    rw [activate_getElem?] at hs
    obtain ⟨t, ht, rfl⟩ := Option.map_eq_some_iff.mp hs
    simp only [Bool.or_eq_false_iff, decide_eq_false_iff_not] at ha
    rw [ht]
    simp [ha.2]
  unfold acquire at hok
  split at hok
  · exact (hother (congrArg Prod.snd (Except.ok.inj hok))).1
  · split at hok
    · next hgrow =>
      simp only [canGrow, Bool.and_eq_true, decide_eq_true_eq] at hgrow
      obtain ⟨hpush, hne⟩ := hother (congrArg Prod.snd (Except.ok.inj hok))
      rw [UInt32.toNat_ofNat_of_lt' hgrow.1.1.2] at hne
      rwa [Array.getElem?_push, if_neg hne] at hpush
    · cases hok

/-- **What is not in use after a call was not in use before, or has just been recycled.** -/
theorem inactive_of_call {p : Pool α} {c : Call α} {i : Nat} {s : Slot α}
    (hs : (p.call c).2.slots[i]? = some s) (ha : s.active = false) :
    p.slots[i]? = some s ∨ ∃ h leave v, c = .release h leave ∧ h.index.toNat = i ∧
      p.get? h = some v ∧ s.value = Poolable.recycle (leave v) := by
  cases c with
  | acquire memory init =>
    unfold call at hs
    dsimp only at hs
    split at hs
    · next h q hok => exact Or.inl (inactive_of_acquire hok (inactive_of_modify hs ha) ha)
    · exact Or.inl hs
  | write h f => exact Or.inl (inactive_of_modify hs ha)
  | release h leave =>
    unfold call at hs
    dsimp only at hs
    split at hs
    · next v q hr =>
      unfold releaseWith at hr
      obtain ⟨w, hw, he⟩ := Option.map_eq_some_iff.mp hr
      obtain ⟨rfl, rfl⟩ := Prod.mk.inj he
      rw [Array.getElem?_modify] at hs
      split at hs
      · next hi =>
        obtain ⟨t, ht, rfl⟩ := Option.map_eq_some_iff.mp hs
        obtain ⟨u, hu, -, -, hval⟩ := get?_eq_some.mp hw
        rw [hi, ht] at hu
        cases hu
        exact Or.inr ⟨h, leave, w, rfl, hi, hw, by rw [← hval]⟩
      · exact Or.inl hs
    · exact Or.inl hs
  | limit limit => exact Or.inl hs
  | clear => simp [call, clear] at hs

/-- The last operation on the value of a slot was to recycle it, unless the value is fresh: what recycled it
is a release, and since then the slot has stayed as it is. -/
def RecycledLast (p : Pool α) (cs : Nat → Call α) (n i : Nat) (s : Slot α) : Prop :=
  s.value = Poolable.fresh ∨ ∃ k h leave v, k < n ∧ cs k = .release h leave ∧ h.index.toNat = i ∧
    (p.after cs k).get? h = some v ∧ s.value = Poolable.recycle (leave v) ∧
    ∀ m, k < m → m ≤ n → (p.after cs m).slots[i]? = some s

theorem fresh_of_built {p : Pool α} (hp : p.Built) {i : Nat} {s : Slot α} (hs : p.slots[i]? = some s) :
    s.value = Poolable.fresh := by
  cases hp with
  | empty => simp [empty] at hs
  | ofCapacity few built =>
    unfold ofCapacity at built
    split at built
    · rw [← Except.ok.inj built, Array.getElem?_replicate] at hs
      split at hs
      · cases hs
        rfl
      · cases hs
    · cases built

/-- The induction is on the number of calls: a slot that is not in use was left alone by the last call, or
was recycled by it. -/
theorem recycledLast_of_inactive {p : Pool α} (hp : p.Built) (cs : Nat → Call α) (n : Nat) {i : Nat}
    {s : Slot α} (hs : (p.after cs n).slots[i]? = some s) (ha : s.active = false) :
    RecycledLast p cs n i s := by
  induction n generalizing s with
  | zero => exact Or.inl (fresh_of_built hp hs)
  | succ n ih =>
    rcases inactive_of_call hs ha with hsame | ⟨h, leave, v, hc, hi, hv, hval⟩
    · rcases ih hsame ha with hfresh | ⟨k, h, leave, v, hkn, hc, hi, hv, hval, hkeep⟩
      · exact Or.inl hfresh
      · refine Or.inr ⟨k, h, leave, v, Nat.lt_succ_of_lt hkn, hc, hi, hv, hval, fun m hkm hmn => ?_⟩
        rcases Nat.le_succ_iff.mp hmn with hle | rfl
        · exact hkeep m hkm hle
        · exact hs
    · refine Or.inr ⟨n, h, leave, v, Nat.lt_succ_self n, hc, hi, hv, hval, fun m hnm hmn => ?_⟩
      rw [Nat.le_antisymm hmn hnm]
      exact hs

/-! ## Spare list and slots agree -/

/-- Counting in a list comes to counting positions. -/
theorem countP_eq_positions {β : Type} (q : β → Bool) (l : List β) :
    l.countP q = ((List.range l.length).filter fun i => l[i]?.any q).length := by
  induction l using List.reverseRecOn with
  | nil => rfl
  | append_singleton l a ih =>
    have hsame : (List.range l.length).filter (fun i => (l ++ [a])[i]?.any q) =
        (List.range l.length).filter fun i => l[i]?.any q := by
      refine List.filter_congr fun i hi => ?_
      rw [List.getElem?_append_left (List.mem_range.mp hi)]
    rw [List.countP_append, List.length_append, List.length_singleton, List.range_succ,
      List.filter_append, List.length_append, hsame, ih]
    cases hq : q a <;> simp [hq]

/-- The free slots are recorded twice, in their flags and in the spare list, and the two agree. -/
structure Represented (p : Pool α) : Prop where
  nodup : p.spare.Nodup
  lt_size : ∀ i ∈ p.spare, i.toNat < p.slots.size
  inactive_iff : ∀ (n : Nat) s, p.slots[n]? = some s → (s.active = false ↔ ∃ i ∈ p.spare, i.toNat = n)
  /-- There is nothing to underflow in the difference of the two counts. -/
  spareCount_le : p.spareCount ≤ p.capacity
  activeCount : p.activeCount = p.slots.toList.countP Slot.active
  total : p.activeCount + p.spareCount = p.capacity
  capacity_le : p.capacity ≤ 4294967296
  /-- The slot of which an object is handed out is there. -/
  indexed : ∀ memory h q, p.acquire memory = .ok (h, q) → h.index.toNat < q.slots.size

namespace WellFormed

variable {p : Pool α}

theorem toNat_lt_size (hp : p.WellFormed) {i : UInt32} (hi : i ∈ p.spare) : i.toNat < p.slots.size := by
  obtain ⟨s, hs, -⟩ := (hp.mem_spare i).mp hi
  exact (Array.getElem?_eq_some_iff.mp hs).1

theorem inactive_iff (hp : p.WellFormed) {n : Nat} {s : Slot α} (hs : p.slots[n]? = some s) :
    s.active = false ↔ ∃ i ∈ p.spare, i.toNat = n := by
  have hlt : n < 4294967296 :=
    Nat.lt_of_lt_of_le (Array.getElem?_eq_some_iff.mp hs).1 hp.size_le
  have hnat : (UInt32.ofNat n).toNat = n := UInt32.toNat_ofNat_of_lt' hlt
  constructor
  · intro ha
    exact ⟨UInt32.ofNat n, (hp.mem_spare _).mpr ⟨s, by rw [hnat]; exact hs, ha⟩, hnat⟩
  · rintro ⟨i, hi, rfl⟩
    obtain ⟨t, ht, hf⟩ := (hp.mem_spare i).mp hi
    rw [hs] at ht
    cases ht
    exact hf

/-- The spare list has the positions of the inactive slots, in some order. -/
theorem spare_perm (hp : p.WellFormed) : (p.spare.map UInt32.toNat).Perm
    ((List.range p.slots.size).filter fun i => p.slots.toList[i]?.any fun s => !s.active) := by
  refine (List.perm_ext_iff_of_nodup (hp.nodup.map fun _ _ => UInt32.toNat_inj.mp)
    (List.nodup_range.filter _)).mpr fun n => ?_
  rw [List.mem_map, List.mem_filter, List.mem_range, Array.getElem?_toList]
  constructor
  · rintro ⟨i, hi, rfl⟩
    obtain ⟨s, hs, hf⟩ := (hp.mem_spare i).mp hi
    exact ⟨hp.toNat_lt_size hi, by rw [hs]; simp [hf]⟩
  · rintro ⟨-, hany⟩
    obtain ⟨s, hs, hf⟩ := (Option.any_eq_true _ _).mp hany
    exact (hp.inactive_iff hs).mp (by simpa using hf)

/-- As many objects are in use as slots are active. -/
theorem activeCount_eq_countP (hp : p.WellFormed) :
    p.activeCount = p.slots.toList.countP Slot.active := by
  have hspare : p.spare.length = p.slots.toList.countP fun s => !s.active := by
    rw [countP_eq_positions, p.slots.length_toList, ← hp.spare_perm.length_eq, List.length_map]
  have hall := List.length_eq_countP_add_countP Slot.active (l := p.slots.toList)
  have hsum := hp.activeCount_add_spare
  simp only [Bool.not_eq_true, Bool.decide_eq_false] at hall
  rw [Array.length_toList, ← hspare] at hall
  omega

theorem represented (hp : p.WellFormed) : p.Represented where
  nodup := hp.nodup
  lt_size _ hi := hp.toNat_lt_size hi
  inactive_iff _ _ hs := hp.inactive_iff hs
  spareCount_le := hp.spare_length_le
  activeCount := hp.activeCount_eq_countP
  total := hp.activeCount_add_spare
  capacity_le := hp.size_le
  indexed memory h q hok := by
    obtain ⟨v, -, hadds⟩ := adds_of_acquire hp hok
    have hv : q.get? h = some v := by rw [hadds.get?, if_pos rfl]
    obtain ⟨s, hs, -⟩ := get?_eq_some.mp hv
    exact (Array.getElem?_eq_some_iff.mp hs).1

end WellFormed

/-- **Whatever is called, the spare list has exactly the inactive slots, and these hold nothing but what was
recycled last.** -/
theorem represented_at_every_moment {p : Pool α} (hp : p.Built) (cs : Nat → Call α) (n : Nat) :
    (p.after cs n).Represented ∧ ∀ (i : Nat) s, (p.after cs n).slots[i]? = some s → s.active = false →
      RecycledLast p cs n i s :=
  ⟨(wellFormed_after hp.wellFormed cs n).represented,
    fun _ _ hs ha => recycledLast_of_inactive hp cs n hs ha⟩

/-- Takes two buffers, writes to the first, gives it back, and then tries to write to it and to give it back
once more. -/
def releaseTwice : Nat → Call Buffer
  | 0 => .acquire .unbounded id
  | 1 => .acquire .unbounded id
  | 2 => .write { index := 0, generation := 0 } (·.append [1, 2])
  | 3 => .release { index := 0, generation := 0 } id
  | 4 => .write { index := 0, generation := 0 } (·.append [3])
  | _ => .release { index := 0, generation := 0 } id

theorem represented_after_second_release :
    (empty : Pool Buffer).Built ∧ ((empty : Pool Buffer).after releaseTwice 6).spare = [0] ∧
      ((empty : Pool Buffer).after releaseTwice 6).Represented :=
  ⟨.empty, by decide +kernel, (represented_at_every_moment .empty releaseTwice 6).1⟩

end EventLoop.Pool
