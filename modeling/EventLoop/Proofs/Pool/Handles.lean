import EventLoop.Pool
import Mathlib.Data.List.Nodup
import Mathlib.Data.List.Perm.Subperm

/-!
# Pools as maps from handles to objects

From outside a pool is a map from handles to objects, `Pool.get?`. This file says what each operation does
to that map, to the generations of the slots and to the number of active objects.

* `Pool.WellFormed` — the spare list holds exactly the positions of the inactive slots, each once, and
  inactive slots hold idle objects. Every operation keeps it.
* `Pool.Adds`, `Pool.Drops`, `Pool.Writes` — what handing out, taking back and writing amount to.
-/

namespace EventLoop.Pool

variable {α : Type}

/-! ## Resolving a handle -/

theorem get?_eq_some {p : Pool α} {h : Handle} {v : α} :
    p.get? h = some v ↔
      ∃ s, p.slots[h.index.toNat]? = some s ∧ s.active = true ∧ s.generation = h.generation ∧
        s.value = v := by
  simp [get?, slot?, and_assoc]

/-- A slot has one handle at a time. -/
theorem eq_of_index_eq {p : Pool α} {h k : Handle} {v w : α} (hv : p.get? h = some v)
    (hw : p.get? k = some w) (hi : h.index = k.index) : h = k := by
  obtain ⟨s, hs, -, hg, -⟩ := get?_eq_some.mp hv
  obtain ⟨t, ht, -, hg', -⟩ := get?_eq_some.mp hw
  rw [hi, ht] at hs
  cases hs
  cases h
  cases k
  simp_all

theorem contains_eq_true {p : Pool α} {h : Handle} : p.contains h = true ↔ ∃ v, p.get? h = some v := by
  rw [contains, Option.isSome_iff_exists]

/-- The slots of the handles that resolve are the active ones. -/
theorem mem_map_index {p : Pool α} {l : List Handle} (hmem : ∀ h, h ∈ l ↔ p.contains h = true) (i : UInt32) :
    i ∈ l.map Handle.index ↔ ∃ s, p.slots[i.toNat]? = some s ∧ s.active = true := by
  rw [List.mem_map]
  constructor
  · rintro ⟨h, hh, rfl⟩
    obtain ⟨v, hv⟩ := contains_eq_true.mp ((hmem h).mp hh)
    obtain ⟨s, hs, ha, -⟩ := get?_eq_some.mp hv
    exact ⟨s, hs, ha⟩
  · rintro ⟨s, hs, ha⟩
    have hv : p.get? { index := i, generation := s.generation } = some s.value :=
      get?_eq_some.mpr ⟨s, hs, ha, rfl, rfl⟩
    exact ⟨_, (hmem _).mpr (contains_eq_true.mpr ⟨_, hv⟩), rfl⟩

/-- The generation that the next handle of a slot will have; zero for a slot yet to come. -/
def generationAt (p : Pool α) (i : UInt32) : UInt64 := (p.slots[i.toNat]?.map Slot.generation).getD 0

/-- A handle that resolves has the generation of its slot. -/
theorem generationAt_of_get? {p : Pool α} {h : Handle} {v : α} (hv : p.get? h = some v) :
    p.generationAt h.index = h.generation := by
  obtain ⟨s, hs, -, hg, -⟩ := get?_eq_some.mp hv
  simp [generationAt, hs, hg]

/-! ## Writing -/

theorem get?_modify (p : Pool α) (h k : Handle) (f : α → α) :
    (p.modify h f).get? k = if k = h then (p.get? h).map f else p.get? k := by
  unfold modify
  by_cases hc : p.contains h = true
  · obtain ⟨v, hv⟩ := contains_eq_true.mp hc
    obtain ⟨s, hs, ha, hg, rfl⟩ := get?_eq_some.mp hv
    rw [if_pos hc]
    by_cases hk : k = h
    · subst hk
      rw [if_pos rfl, hv, Option.map_some, get?_eq_some]
      exact ⟨{ s with value := f s.value }, by simp [Array.getElem?_modify, hs], ha, hg, rfl⟩
    · rw [if_neg hk]
      -- another handle of the same slot is of another generation, so it resolves neither before nor after
      by_cases hi : h.index.toNat = k.index.toNat
      · have hgen : s.generation ≠ k.generation := by
          intro he
          rw [UInt32.toNat_inj] at hi
          cases h
          cases k
          simp_all
        simp [get?, slot?, Array.getElem?_modify, ← hi, hs, hgen, Option.filter]
      · simp [get?, slot?, Array.getElem?_modify, hi]
  · have hn : p.get? h = none := by simpa [contains] using hc
    rw [if_neg hc]
    by_cases hk : k = h
    · subst hk
      simp [hn]
    · rw [if_neg hk]

theorem slots_modify_getElem? (p : Pool α) (h : Handle) (f : α → α) (i : Nat) :
    (p.modify h f).slots[i]? =
      p.slots[i]?.map fun s =>
        { s with value := if i = h.index.toNat ∧ p.contains h = true then f s.value else s.value } := by
  unfold modify
  split
  · next hc =>
    rw [Array.getElem?_modify]
    by_cases hi : h.index.toNat = i
    · simp [hi, hc]
    · simp [hi, Ne.symm hi]
  · next hc => simp [hc]

@[simp] theorem generationAt_modify (p : Pool α) (h : Handle) (f : α → α) (i : UInt32) :
    (p.modify h f).generationAt i = p.generationAt i := by
  simp [generationAt, slots_modify_getElem?, Function.comp_def]

@[simp] theorem spare_modify (p : Pool α) (h : Handle) (f : α → α) : (p.modify h f).spare = p.spare := by
  unfold modify
  split <;> rfl

@[simp] theorem size_modify (p : Pool α) (h : Handle) (f : α → α) :
    (p.modify h f).slots.size = p.slots.size := by
  unfold modify
  split <;> simp

/-! ## Activating a slot -/

theorem activate_getElem? (p : Pool α) (index : UInt32) (i : Nat) :
    (p.activate index).2.slots[i]? =
      p.slots[i]?.map fun s => { s with active := s.active || decide (i = index.toNat) } := by
  simp only [activate, Array.getElem?_modify]
  by_cases hi : index.toNat = i
  · simp [hi]
  · simp [hi, Ne.symm hi]

/-- Activating an inactive slot makes its object reachable under the slot's next handle. -/
theorem get?_activate {p : Pool α} {index : UInt32} {s : Slot α}
    (hs : p.slots[index.toNat]? = some s) (ha : s.active = false) (k : Handle) :
    (p.activate index).2.get? k = if k = (p.activate index).1 then some s.value else p.get? k := by
  have hg : (p.activate index).1.generation = s.generation := by simp [activate, hs]
  by_cases hk : k = (p.activate index).1
  · rw [if_pos hk, get?_eq_some, hk]
    refine ⟨{ s with active := true }, ?_, rfl, hg.symm, rfl⟩
    rw [activate_getElem?, show (p.activate index).1.index = index from rfl, hs]
    simp
  · rw [if_neg hk]
    by_cases hi : k.index = index
    · have hne : ¬s.generation = k.generation := by
        intro he
        refine hk ?_
        cases k
        simp_all [activate]
      simp [get?, slot?, activate_getElem?, hi, hs, ha, hne, Option.filter]
    · have hi' : ¬k.index.toNat = index.toNat := fun he => hi (UInt32.toNat_inj.mp he)
      simp [get?, slot?, activate_getElem?, hi']

/-! ## Well-formed pools -/

variable [Poolable α]

/-- An object that is not in use: never handed out, or recycled since. -/
def IsIdle (v : α) : Prop := v = Poolable.fresh ∨ ∃ w, v = Poolable.recycle w

/-- What holds of every pool of at most 2 ^ 32 slots. -/
structure WellFormed (p : Pool α) : Prop where
  /-- Every position fits 32 bits. -/
  size_le : p.slots.size ≤ 4294967296
  /-- No slot is spare twice. -/
  nodup : p.spare.Nodup
  /-- The spare slots are the inactive ones. -/
  mem_spare : ∀ i, i ∈ p.spare ↔ ∃ s, p.slots[i.toNat]? = some s ∧ s.active = false
  /-- What is not in use was recycled. -/
  idle : ∀ (i : Nat) s, p.slots[i]? = some s → s.active = false → IsIdle s.value

namespace WellFormed

variable {p : Pool α}

/-- There are no more spare slots than slots. -/
theorem spare_length_le (hp : p.WellFormed) : p.spare.length ≤ p.slots.size := by
  have hnd : (p.spare.map UInt32.toNat).Nodup :=
    hp.nodup.map fun _ _ => UInt32.toNat_inj.mp
  have hsub : p.spare.map UInt32.toNat ⊆ List.range p.slots.size := by
    intro n hn
    obtain ⟨i, hi, rfl⟩ := List.mem_map.mp hn
    obtain ⟨s, hs, -⟩ := (hp.mem_spare i).mp hi
    exact List.mem_range.mpr (Array.getElem?_eq_some_iff.mp hs).1
  simpa using (hnd.subperm hsub).length_le

/-- Handed-out and spare slots are all there are. -/
theorem activeCount_add_spare (hp : p.WellFormed) : p.activeCount + p.spare.length = p.slots.size := by
  have := hp.spare_length_le
  unfold activeCount
  omega

/-- A handle that resolves is not spare. -/
theorem not_mem_spare (hp : p.WellFormed) {h : Handle} {v : α} (hv : p.get? h = some v) :
    h.index ∉ p.spare := by
  intro hm
  obtain ⟨s, hs, ha, -⟩ := get?_eq_some.mp hv
  obtain ⟨t, ht, hf⟩ := (hp.mem_spare h.index).mp hm
  rw [hs] at ht
  cases ht
  rw [ha] at hf
  cases hf

/-- Handles that resolve and the spare list together have every slot once. -/
theorem perm_slots (hp : p.WellFormed) {l : List Handle} (hnd : l.Nodup)
    (hmem : ∀ h, h ∈ l ↔ p.contains h = true) :
    ((l.map Handle.index ++ p.spare).map UInt32.toNat).Perm (List.range p.slots.size) := by
  refine (List.perm_ext_iff_of_nodup ?_ List.nodup_range).mpr fun m => ?_
  · -- a slot has one handle at a time, and is not active and spare at once
    refine List.Nodup.map (fun _ _ => UInt32.toNat_inj.mp) (List.nodup_append.mpr ⟨?_, hp.nodup, ?_⟩)
    · refine List.Nodup.map_on ?_ hnd
      intro h hh k hk he
      obtain ⟨v, hv⟩ := contains_eq_true.mp ((hmem h).mp hh)
      obtain ⟨w, hw⟩ := contains_eq_true.mp ((hmem k).mp hk)
      exact eq_of_index_eq hv hw he
    · rintro i hi j hj rfl
      obtain ⟨s, hs, ha⟩ := (mem_map_index hmem i).mp hi
      obtain ⟨t, ht, hf⟩ := (hp.mem_spare i).mp hj
      rw [hs] at ht
      cases ht
      rw [ha] at hf
      cases hf
  · rw [List.mem_map, List.mem_range]
    constructor
    · rintro ⟨i, hi, rfl⟩
      rcases List.mem_append.mp hi with hi | hi
      · obtain ⟨s, hs, -⟩ := (mem_map_index hmem i).mp hi
        exact (Array.getElem?_eq_some_iff.mp hs).1
      · obtain ⟨s, hs, -⟩ := (hp.mem_spare i).mp hi
        exact (Array.getElem?_eq_some_iff.mp hs).1
    · intro hm
      have hnat : (UInt32.ofNat m).toNat = m :=
        UInt32.toNat_ofNat_of_lt' (Nat.lt_of_lt_of_le hm hp.size_le)
      refine ⟨UInt32.ofNat m, List.mem_append.mpr ?_, hnat⟩
      rw [mem_map_index hmem, hp.mem_spare, hnat, Array.getElem?_eq_getElem hm]
      cases p.slots[m].active <;> simp_all

/-- As many objects are in use as there are handles that resolve. -/
theorem activeCount_eq_length (hp : p.WellFormed) {l : List Handle} (hnd : l.Nodup)
    (hmem : ∀ h, h ∈ l ↔ p.contains h = true) : p.activeCount = l.length := by
  have hlen := (hp.perm_slots hnd hmem).length_eq
  have hcount := hp.activeCount_add_spare
  simp only [List.length_map, List.length_append, List.length_range] at hlen
  omega

protected theorem modify (hp : p.WellFormed) (h : Handle) (f : α → α) : (p.modify h f).WellFormed where
  size_le := by simpa using hp.size_le
  nodup := by simpa using hp.nodup
  mem_spare i := by
    rw [spare_modify, hp.mem_spare i]
    simp [slots_modify_getElem?]
  idle i s hs ha := by
    rw [slots_modify_getElem?] at hs
    obtain ⟨t, ht, rfl⟩ := Option.map_eq_some_iff.mp hs
    -- an inactive slot is not the one written to
    have hw : ¬(i = h.index.toNat ∧ p.contains h = true) := by
      rintro ⟨rfl, hc⟩
      obtain ⟨v, hv⟩ := contains_eq_true.mp hc
      obtain ⟨u, hu, hact, -⟩ := get?_eq_some.mp hv
      rw [ht] at hu
      cases hu
      rw [hact] at ha
      cases ha
    simpa [hw] using hp.idle i t ht ha

end WellFormed

theorem wellFormed_empty : (empty : Pool α).WellFormed where
  size_le := Nat.zero_le _
  nodup := List.nodup_nil
  mem_spare i := by simp [empty]
  idle i s hs _ := by simp [empty] at hs

/-- Positions fit 32 bits as long as there are at most 2 ^ 32 of them. -/
theorem wellFormed_ofCapacity {memory : Memory} {n : Nat} {p : Pool α} (hn : n ≤ 4294967296)
    (h : ofCapacity memory n = .ok p) : p.WellFormed := by
  unfold ofCapacity at h
  split at h
  · rw [← Except.ok.inj h]
    have hlt : ∀ m ∈ List.range n, m < UInt32.size := fun m hm =>
      Nat.lt_of_lt_of_le (List.mem_range.mp hm) hn
    refine ⟨by simpa using hn, ?_, ?_, ?_⟩
    · refine List.Nodup.map_on ?_ List.nodup_range
      intro a ha b hb he
      rw [← UInt32.toNat_ofNat_of_lt' (hlt a ha), he, UInt32.toNat_ofNat_of_lt' (hlt b hb)]
    · intro i
      simp only [List.mem_map, List.mem_range, Array.getElem?_replicate]
      constructor
      · rintro ⟨m, hm, rfl⟩
        rw [UInt32.toNat_ofNat_of_lt' (hlt m (List.mem_range.mpr hm)), if_pos hm]
        exact ⟨freshSlot, rfl, rfl⟩
      · rintro ⟨s, hs, -⟩
        split at hs
        · next hi => exact ⟨i.toNat, hi, UInt32.ofNat_toNat⟩
        · cases hs
    · intro i s hs _
      rw [Array.getElem?_replicate] at hs
      split at hs
      · cases hs
        exact Or.inl rfl
      · cases hs
  · cases h

theorem generationAt_ofCapacity {memory : Memory} {n : Nat} {p : Pool α}
    (h : ofCapacity memory n = .ok p) (i : UInt32) : p.generationAt i = 0 := by
  unfold ofCapacity at h
  split at h
  · rw [← Except.ok.inj h]
    simp only [generationAt, Array.getElem?_replicate]
    split <;> rfl
  · cases h

theorem get?_ofCapacity {memory : Memory} {n : Nat} {p : Pool α} (h : ofCapacity memory n = .ok p)
    (k : Handle) : p.get? k = none := by
  unfold ofCapacity at h
  split at h
  · rw [← Except.ok.inj h]
    rw [Option.eq_none_iff_forall_ne_some]
    intro v hv
    obtain ⟨s, hs, ha, -⟩ := get?_eq_some.mp hv
    rw [Array.getElem?_replicate] at hs
    split at hs <;> cases hs
    cases ha
  · cases h

theorem get?_push (p : Pool α) (k : Handle) :
    ({ p with slots := p.slots.push freshSlot } : Pool α).get? k = p.get? k := by
  by_cases hk : k.index.toNat = p.slots.size
  · simp [get?, slot?, hk, freshSlot, Option.filter]
  · simp [get?, slot?, Array.getElem?_push, hk]

theorem generationAt_push (p : Pool α) (i : UInt32) :
    ({ p with slots := p.slots.push freshSlot } : Pool α).generationAt i = p.generationAt i := by
  by_cases hi : i.toNat = p.slots.size
  · simp [generationAt, hi, freshSlot]
  · simp [generationAt, Array.getElem?_push, hi]

/-! ## Handing out -/

/-- An object comes in under a handle that did not resolve. -/
structure Adds (p : Pool α) (h : Handle) (v : α) (q : Pool α) : Prop where
  wellFormed : q.WellFormed
  absent : p.get? h = none
  get? : ∀ k, q.get? k = if k = h then some v else p.get? k
  generation : h.generation = p.generationAt h.index
  generationAt : ∀ i, q.generationAt i = p.generationAt i
  activeCount : q.activeCount = p.activeCount + 1

/-- Writing to a new object comes to handing out another one. -/
theorem Adds.modify {p q : Pool α} {h : Handle} {v : α} (a : p.Adds h v q) (f : α → α) :
    p.Adds h (f v) (q.modify h f) where
  wellFormed := a.wellFormed.modify h f
  absent := a.absent
  get? k := by
    rw [get?_modify, a.get? k, a.get? h, if_pos rfl]
    split <;> rfl
  generation := a.generation
  generationAt i := by rw [generationAt_modify, a.generationAt]
  activeCount := by simpa [Pool.activeCount] using a.activeCount

/-- Activating an inactive slot that is on no list makes its object reachable under a new handle. -/
theorem adds_of_activate {p q : Pool α} {index : UInt32} {s : Slot α}
    (hs : q.slots[index.toNat]? = some s) (ha : s.active = false)
    (hsize : q.slots.size ≤ 4294967296) (hnd : q.spare.Nodup)
    (hmem : ∀ i, i ∈ q.spare ↔
      i ≠ index ∧ ∃ t, q.slots[i.toNat]? = some t ∧ t.active = false)
    (hidle : ∀ (i : Nat) t, q.slots[i]? = some t → t.active = false → IsIdle t.value)
    (hget : ∀ k, q.get? k = p.get? k) (hgen : ∀ i, q.generationAt i = p.generationAt i)
    (hcount : q.slots.size - q.spare.length = p.activeCount + 1) :
    p.Adds (q.activate index).1 s.value (q.activate index).2 where
  wellFormed := by
    refine ⟨by simpa [activate] using hsize, hnd, ?_, ?_⟩
    · intro i
      show i ∈ q.spare ↔ _
      rw [hmem i]
      simp only [activate_getElem?, Option.map_eq_some_iff, UInt32.toNat_inj]
      constructor
      · rintro ⟨hi, t, ht, hf⟩
        exact ⟨_, ⟨t, ht, rfl⟩, by simp [hf, hi]⟩
      · rintro ⟨_, ⟨t, ht, rfl⟩, hf⟩
        simp only [Bool.or_eq_false_iff, decide_eq_false_iff_not] at hf
        exact ⟨hf.2, t, ht, hf.1⟩
    · intro i t ht hf
      rw [activate_getElem?] at ht
      obtain ⟨u, hu, rfl⟩ := Option.map_eq_some_iff.mp ht
      simp only [Bool.or_eq_false_iff] at hf
      exact hidle i u hu hf.1
  absent := by
    rw [← hget, Option.eq_none_iff_forall_ne_some]
    intro v hv
    obtain ⟨t, ht, hact, -⟩ := get?_eq_some.mp hv
    rw [show (q.activate index).1.index = index from rfl, hs] at ht
    cases ht
    rw [ha] at hact
    cases hact
  get? k := by
    rw [← hget]
    exact get?_activate hs ha k
  generation := by
    rw [← hgen]
    rfl
  generationAt i := by
    rw [← hgen]
    simp [Pool.generationAt, activate_getElem?, Function.comp_def]
  activeCount := by simpa [Pool.activeCount, activate] using hcount

/-- The slot that has been spare longest is used again. -/
theorem adds_of_reuse {p : Pool α} {index : UInt32} {spare : List UInt32} (hp : p.WellFormed)
    (hsp : p.spare = index :: spare) :
    ∃ v, IsIdle v ∧
      p.Adds (activate { p with spare } index).1 v (activate { p with spare } index).2 := by
  obtain ⟨s, hs, hf⟩ := (hp.mem_spare index).mp (by rw [hsp]; exact List.mem_cons_self)
  have hnd : (index :: spare).Nodup := hsp ▸ hp.nodup
  refine ⟨s.value, hp.idle _ s hs hf, ?_⟩
  refine adds_of_activate (q := { p with spare }) hs hf hp.size_le hnd.of_cons ?_ hp.idle
    (fun _ => rfl) (fun _ => rfl) ?_
  · intro i
    have hm := hp.mem_spare i
    rw [hsp, List.mem_cons] at hm
    constructor
    · intro hi
      exact ⟨fun he => (List.nodup_cons.mp hnd).1 (he ▸ hi), hm.mp (Or.inr hi)⟩
    · rintro ⟨hi, ht⟩
      exact (hm.mpr ht).resolve_left hi
  · have := hp.spare_length_le
    rw [hsp, List.length_cons] at this
    simp only [Pool.activeCount, hsp, List.length_cons]
    omega

/-- Without a spare slot the pool grows by one. -/
theorem adds_of_growth {p : Pool α} (hp : p.WellFormed) (hsp : p.spare = [])
    (hlt : p.slots.size < 4294967296) :
    p.Adds (activate { p with slots := p.slots.push freshSlot } (UInt32.ofNat p.slots.size)).1
      Poolable.fresh
      (activate { p with slots := p.slots.push freshSlot } (UInt32.ofNat p.slots.size)).2 := by
  have hnat : (UInt32.ofNat p.slots.size).toNat = p.slots.size := UInt32.toNat_ofNat_of_lt' hlt
  refine adds_of_activate (q := { p with slots := p.slots.push freshSlot }) (s := freshSlot)
    (by simp [hnat]) rfl (by rw [Array.size_push]; omega) hp.nodup ?_ ?_ (get?_push p)
    (generationAt_push p) (by simp [Pool.activeCount, hsp])
  · intro i
    show i ∈ p.spare ↔ _
    rw [hp.mem_spare i]
    by_cases hi : i.toNat = p.slots.size
    · have he : i = UInt32.ofNat p.slots.size := by rw [← hi, UInt32.ofNat_toNat]
      rw [hi]
      simp [he]
    · have he : i ≠ UInt32.ofNat p.slots.size := fun he => hi (by rw [he, hnat])
      simp [Array.getElem?_push, hi, he]
  · intro i t ht hf
    rw [Array.getElem?_push] at ht
    split at ht
    · cases ht
      exact Or.inl rfl
    · exact hp.idle i t ht hf

/-- A pool hands out an idle object, and nothing else changes. -/
theorem adds_of_acquire {memory : Memory} {p q : Pool α} {h : Handle} (hp : p.WellFormed)
    (ha : p.acquire memory = .ok (h, q)) : ∃ v, IsIdle v ∧ p.Adds h v q := by
  unfold acquire at ha
  split at ha
  · next index spare hsp =>
    obtain ⟨v, hv, hadds⟩ := adds_of_reuse hp hsp
    rw [Except.ok.inj ha] at hadds
    exact ⟨v, hv, hadds⟩
  · next hsp =>
    split at ha
    · next hgrow =>
      simp only [canGrow, Bool.and_eq_true, decide_eq_true_eq] at hgrow
      have hadds := adds_of_growth hp hsp hgrow.1.1.2
      rw [Except.ok.inj ha] at hadds
      exact ⟨_, Or.inl rfl, hadds⟩
    · cases ha

/-! ## Taking back -/

/-- The object of a handle goes, and its slot moves on by one generation. -/
structure Drops (p : Pool α) (h : Handle) (q : Pool α) : Prop where
  wellFormed : q.WellFormed
  present : p.contains h = true
  get? : ∀ k, q.get? k = if k = h then none else p.get? k
  generationAt : ∀ i, q.generationAt i = p.generationAt i + if i = h.index then 1 else 0
  activeCount : q.activeCount + 1 = p.activeCount

/-- The pool after the slot of a handle was given back. -/
def released (p : Pool α) (h : Handle) : Pool α :=
  { p with
    slots := p.slots.modify h.index.toNat fun s =>
      { generation := s.generation + 1, active := false, value := Poolable.recycle s.value }
    spare := p.spare ++ [h.index] }

theorem get?_released {p : Pool α} {h : Handle} {v : α} (hv : p.get? h = some v) (k : Handle) :
    (p.released h).get? k = if k = h then none else p.get? k := by
  obtain ⟨s, hs, -, hg, -⟩ := get?_eq_some.mp hv
  by_cases hi : h.index = k.index
  · -- the slot is inactive now, and before only `h` had its generation
    have hnone : (p.released h).get? k = none := by
      simp [released, get?, slot?, Array.getElem?_modify, ← hi, hs, Option.filter]
    rw [hnone]
    split
    · rfl
    · next hk =>
      rw [eq_comm, Option.eq_none_iff_forall_ne_some]
      intro w hw
      exact hk (eq_of_index_eq hv hw hi).symm
  · have hi' : ¬h.index.toNat = k.index.toNat := fun he => hi (UInt32.toNat_inj.mp he)
    rw [if_neg fun hk => hi (by rw [hk])]
    simp [released, get?, slot?, Array.getElem?_modify, hi']

theorem generationAt_released {p : Pool α} {h : Handle} {v : α} (hv : p.get? h = some v) (i : UInt32) :
    (p.released h).generationAt i = p.generationAt i + if i = h.index then 1 else 0 := by
  obtain ⟨s, hs, -⟩ := get?_eq_some.mp hv
  by_cases hi : i = h.index
  · simp [generationAt, released, Array.getElem?_modify, hi, hs]
  · have hi' : ¬h.index.toNat = i.toNat := fun he => hi (UInt32.toNat_inj.mp he).symm
    simp [generationAt, released, Array.getElem?_modify, hi, hi']

protected theorem WellFormed.released {p : Pool α} {h : Handle} {v : α} (hp : p.WellFormed)
    (hv : p.get? h = some v) : (p.released h).WellFormed where
  size_le := by simpa [Pool.released] using hp.size_le
  nodup := by
    refine List.nodup_append.mpr ⟨hp.nodup, List.nodup_singleton _, ?_⟩
    rintro a ha b hb rfl
    exact hp.not_mem_spare hv (List.mem_singleton.mp hb ▸ ha)
  mem_spare i := by
    obtain ⟨s, hs, -⟩ := get?_eq_some.mp hv
    show i ∈ p.spare ++ [h.index] ↔ _
    rw [List.mem_append, List.mem_singleton, hp.mem_spare i]
    by_cases hi : i = h.index
    · simp [Pool.released, Array.getElem?_modify, hi, hs]
    · have hi' : ¬h.index.toNat = i.toNat := fun he => hi (UInt32.toNat_inj.mp he).symm
      simp [Pool.released, Array.getElem?_modify, hi, hi']
  idle i s hs ha := by
    simp only [Pool.released, Array.getElem?_modify] at hs
    split at hs
    · obtain ⟨t, -, rfl⟩ := Option.map_eq_some_iff.mp hs
      exact Or.inr ⟨t.value, rfl⟩
    · exact hp.idle i s hs ha

theorem release_eq_none {p : Pool α} {h : Handle} : p.release h = none ↔ p.get? h = none := by
  simp [release, releaseWith]

theorem drops_of_release {p q : Pool α} {h : Handle} {v : α} (hp : p.WellFormed)
    (hr : p.release h = some (v, q)) : p.get? h = some v ∧ p.Drops h q := by
  unfold release releaseWith at hr
  obtain ⟨w, hw, he⟩ := Option.map_eq_some_iff.mp hr
  obtain ⟨rfl, rfl⟩ := Prod.mk.inj he
  refine ⟨hw, ?_⟩
  have hwf := hp.released hw
  refine ⟨hwf, contains_eq_true.mpr ⟨w, hw⟩, get?_released hw, generationAt_released hw, ?_⟩
  have hle := hwf.spare_length_le
  simp only [released, activeCount, List.length_append, List.length_singleton, Array.size_modify] at hle ⊢
  omega

theorem drops_of_discard {p : Pool α} {h : Handle} (hp : p.WellFormed) (hc : p.contains h = true) :
    p.Drops h (p.discard h) := by
  unfold discard
  split
  · next q hr => exact (drops_of_release hp hr).2
  · next hr =>
    rw [contains, release_eq_none.mp hr] at hc
    cases hc

/-- After a discard the handle is stale, whatever it was before, and nothing else changes. -/
theorem get?_discard {p : Pool α} (hp : p.WellFormed) (h : Handle) :
    (p.discard h).WellFormed ∧ ∀ k, (p.discard h).get? k = if k = h then none else p.get? k := by
  by_cases hc : p.contains h = true
  · exact ⟨(drops_of_discard hp hc).wellFormed, (drops_of_discard hp hc).get?⟩
  · have hn : p.get? h = none := by simpa [contains] using hc
    have hd : p.discard h = p := by
      unfold discard
      rw [release_eq_none.mpr hn]
    rw [hd]
    refine ⟨hp, fun k => ?_⟩
    split
    · next hk => rw [hk, hn]
    · rfl

/-! ## Writing in place -/

/-- Objects change in place, each by what its handle says. -/
structure Writes (p : Pool α) (f : Handle → α → α) (q : Pool α) : Prop where
  wellFormed : q.WellFormed
  get? : ∀ k, q.get? k = (p.get? k).map (f k)
  generationAt : ∀ i, q.generationAt i = p.generationAt i
  activeCount : q.activeCount = p.activeCount

theorem writes_of_modify {p : Pool α} (hp : p.WellFormed) (h : Handle) (f : α → α) :
    p.Writes (fun k v => if k = h then f v else v) (p.modify h f) where
  wellFormed := hp.modify h f
  get? k := by
    rw [get?_modify]
    split
    · next hk => simp [hk]
    · simp
  generationAt := generationAt_modify p h f
  activeCount := by simp [activeCount]

theorem Writes.refl {p : Pool α} (hp : p.WellFormed) : p.Writes (fun _ v => v) p where
  wellFormed := hp
  get? k := by simp
  generationAt _ := rfl
  activeCount := rfl

/-- Only what is written to the objects there are matters. -/
theorem Writes.congr {p q : Pool α} {f g : Handle → α → α} (a : p.Writes f q)
    (h : ∀ k v, p.get? k = some v → f k v = g k v) : p.Writes g q where
  wellFormed := a.wellFormed
  get? k := by
    rw [a.get?]
    cases hv : p.get? k with
    | none => rfl
    | some v => rw [Option.map_some, Option.map_some, h k v hv]
  generationAt := a.generationAt
  activeCount := a.activeCount

theorem Writes.trans {p q r : Pool α} {f g : Handle → α → α} (a : p.Writes f q) (b : q.Writes g r) :
    p.Writes (fun k v => g k (f k v)) r where
  wellFormed := b.wellFormed
  get? k := by
    rw [b.get?, a.get?, Option.map_map]
    rfl
  generationAt i := (b.generationAt i).trans (a.generationAt i)
  activeCount := b.activeCount.trans a.activeCount

end EventLoop.Pool
