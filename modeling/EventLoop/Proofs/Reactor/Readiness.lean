import EventLoop.Proofs.Reactor.Ownership

/-!
# What a wait reports for a descriptor

`Reactor.firedOf` hands out the reported conditions by position: the answers belong, in order, to the
groups that the wait was asked about. Here `Reactor.readiness` finds the answer for a descriptor by the
number in its entry, without positions.

* `firedOf_active` — the two agree, for every group.
* `readiness_of_polled` — a polled descriptor has one entry, for all that its notifications wait for, and
  gets the conditions reported for that entry.
* `readiness_of_not_polled` — the timer and a descriptor without interest get nothing.
-/

namespace EventLoop

variable {α : Type}

/-! ## Conditions as events -/

namespace Conditions

theorem fired_none : Conditions.none.fired = Events.none := by decide

/-- Input, or something that is reported in any case, counts as reading. -/
theorem contains_read_fired (c : Conditions) :
    c.fired.contains .read = (c.meets input || c.meets unasked) := by
  unfold fired toEvents
  cases c.meets input <;> cases c.meets output <;> cases c.meets urgent <;> cases c.meets unasked <;> rfl

theorem contains_write_fired (c : Conditions) :
    c.fired.contains .write = (c.meets output || c.meets unasked) := by
  unfold fired toEvents
  cases c.meets input <;> cases c.meets output <;> cases c.meets urgent <;> cases c.meets unasked <;> rfl

theorem contains_except_fired (c : Conditions) :
    c.fired.contains .except = (c.meets urgent || c.meets unasked) := by
  unfold fired toEvents
  cases c.meets input <;> cases c.meets output <;> cases c.meets urgent <;> cases c.meets unasked <;> rfl

/-- Nothing else is ever reported. -/
theorem fired_inter_waitable (c : Conditions) : c.fired &&& .waitable = c.fired := by
  unfold fired toEvents
  cases c.meets input <;> cases c.meets output <;> cases c.meets urgent <;> cases c.meets unasked <;> rfl

/-- The events that reported conditions stand for. -/
structure Means (c : Conditions) (e : Events) : Prop where
  read : e.contains .read = (c.meets input || c.meets unasked)
  write : e.contains .write = (c.meets output || c.meets unasked)
  except : e.contains .except = (c.meets urgent || c.meets unasked)
  /-- There are no others. -/
  only : e &&& .waitable = e

theorem means_fired (c : Conditions) : c.Means c.fired where
  read := c.contains_read_fired
  write := c.contains_write_fired
  except := c.contains_except_fired
  only := c.fired_inter_waitable

end Conditions

namespace Reactor

/-! ## Looking an answer up by its descriptor -/

/-- The events that were reported for a descriptor: those of the entry with its number. -/
def readinessIn (entries : List PollEntry) (reported : List Conditions) (d : Descriptor) : Events :=
  match d.number? with
  | none => .none
  | some number =>
    (((entries.zip reported).find? fun e => decide (e.1.number = number)).map fun e => e.2.fired).getD .none

/-- The events that a wait on the reactor's poll set reported for a descriptor. -/
def readiness (r : Reactor α) (reported : List Conditions) (d : Descriptor) : Events :=
  readinessIn r.pollSet reported d

/-- Nothing is reported that a wait cannot be asked for. -/
theorem readiness_inter_waitable (r : Reactor α) (reported : List Conditions) (d : Descriptor) :
    r.readiness reported d &&& .waitable = r.readiness reported d := by
  unfold readiness readinessIn
  split
  · rfl
  · next number _ =>
    cases ((r.pollSet.zip reported).find? fun e => decide (e.1.number = number)) with
    | none => rfl
    | some e => exact e.2.fired_inter_waitable

theorem readinessIn_nil_right (entries : List PollEntry) (d : Descriptor) :
    readinessIn entries [] d = .none := by
  unfold readinessIn
  split <;> simp

theorem readinessIn_cons_self {e : PollEntry} {entries : List PollEntry} {c : Conditions}
    {reported : List Conditions} {d : Descriptor} (h : d.number? = some e.number) :
    readinessIn (e :: entries) (c :: reported) d = c.fired := by
  simp [readinessIn, h]

theorem readinessIn_cons_ne {e : PollEntry} {entries : List PollEntry} {c : Conditions}
    {reported : List Conditions} {d : Descriptor} (h : d.number? ≠ some e.number) :
    readinessIn (e :: entries) (c :: reported) d = readinessIn entries reported d := by
  unfold readinessIn
  split
  · rfl
  · next number hd =>
    have hne : ¬e.number = number := fun he => h (hd.trans (by rw [he]))
    simp [hne]

theorem readinessIn_of_not_mem {entries : List PollEntry} {reported : List Conditions} {d : Descriptor}
    (h : ∀ e ∈ entries, d.number? ≠ some e.number) : readinessIn entries reported d = .none := by
  induction entries generalizing reported with
  | nil =>
    unfold readinessIn
    split <;> simp
  | cons e rest ih =>
    cases reported with
    | nil => exact readinessIn_nil_right _ d
    | cons c cs =>
      rw [readinessIn_cons_ne (h e List.mem_cons_self)]
      exact ih fun k hk => h k (List.mem_cons_of_mem _ hk)

/-- An entry whose number stands nowhere else gets the answer at its own position. -/
theorem readinessIn_of_getElem? {entries : List PollEntry} {reported : List Conditions}
    {d : Descriptor} {k : Nat} {e : PollEntry} (he : entries[k]? = some e)
    (hd : d.number? = some e.number)
    (honly : ∀ (j : Nat) e', entries[j]? = some e' → e'.number = e.number → j = k) :
    readinessIn entries reported d = (reported[k]?.getD .none).fired := by
  induction entries generalizing reported k with
  | nil => cases he
  | cons a rest ih =>
    cases reported with
    | nil => rw [readinessIn_nil_right, List.getElem?_nil, Option.getD_none, Conditions.fired_none]
    | cons c cs =>
      cases k with
      | zero =>
        cases he
        rw [readinessIn_cons_self hd]
        rfl
      | succ k =>
        have hne : d.number? ≠ some a.number := by
          rw [hd]
          intro hs
          exact absurd (honly 0 a rfl (Option.some.inj hs).symm) (by omega)
        rw [readinessIn_cons_ne hne, List.getElem?_cons_succ]
        refine ih he fun j e' hj hn => ?_
        have := honly (j + 1) e' hj hn
        omega

/-! ## The poll set -/

/-- What the wait is asked about a group: all that its notifications wait for, on its descriptor. -/
theorem entryOf_eq_some {r : Reactor α} {g : Handle} {e : PollEntry} :
    r.entryOf g = some e ↔ ∃ group number, r.groups.get? g = some group ∧
      group.descriptor = .fd number ∧ ¬(r.interestOf g).isEmpty = true ∧
      e = .ofInterest number (r.interestOf g) := by
  unfold entryOf
  cases hg : r.groups.get? g with
  | none => simp
  | some group =>
    cases hd : group.descriptor with
    | timer => simp [hd, Descriptor.number?]
    | fd number =>
      by_cases hi : (r.interestOf g).isEmpty = true
      · simp [Descriptor.number?, hi]
      · simp [hd, Descriptor.number?, hi, eq_comm]

/-- Entries of different groups have different numbers. -/
theorem eq_of_entryOf_number {r : Reactor α} (hr : r.WellFormed) {g k : Handle} {a b : PollEntry}
    (ha : r.entryOf g = some a) (hb : r.entryOf k = some b) (hn : a.number = b.number) : g = k := by
  obtain ⟨ga, na, hga, hda, -, rfl⟩ := entryOf_eq_some.mp ha
  obtain ⟨gb, nb, hgb, hdb, -, rfl⟩ := entryOf_eq_some.mp hb
  refine hr.descriptor_inj g k ga gb hga hgb ?_
  rw [hda, hdb]
  exact congrArg Descriptor.fd hn

/-- The entries of distinct groups have distinct numbers. -/
theorem numbers_nodup {r : Reactor α} (hr : r.WellFormed) :
    ∀ {l : List Handle}, l.Nodup → ((l.filterMap r.entryOf).map PollEntry.number).Nodup
  | [], _ => List.nodup_nil
  | g :: rest, hl => by
    have hrest := numbers_nodup hr (List.nodup_cons.mp hl).2
    cases he : r.entryOf g with
    | none => rwa [List.filterMap_cons_none he]
    | some e =>
      rw [List.filterMap_cons_some he, List.map_cons, List.nodup_cons]
      refine ⟨?_, hrest⟩
      intro hm
      obtain ⟨b, hb, hn⟩ := List.mem_map.mp hm
      obtain ⟨k, hk, hkb⟩ := List.mem_filterMap.mp hb
      have := eq_of_entryOf_number hr hkb he hn
      exact (List.nodup_cons.mp hl).1 (this ▸ hk)

/-- **No descriptor is polled twice.** -/
theorem pollSet_numbers_nodup {r : Reactor α} (hr : r.WellFormed) :
    (r.pollSet.map PollEntry.number).Nodup :=
  numbers_nodup hr hr.active_nodup

/-! ## Positions and descriptors agree -/

/-- The descriptor of a group. -/
def descriptorOf (r : Reactor α) (g : Handle) : Descriptor :=
  ((r.groups.get? g).map Group.descriptor).getD .timer

theorem descriptorOf_of_get? {r : Reactor α} {g : Handle} {group : Group}
    (hg : r.groups.get? g = some group) : r.descriptorOf g = group.descriptor := by
  simp [descriptorOf, hg]

theorem number?_descriptorOf {r : Reactor α} {g : Handle} {e : PollEntry} (he : r.entryOf g = some e) :
    (r.descriptorOf g).number? = some e.number := by
  obtain ⟨group, number, hg, hd, -, rfl⟩ := entryOf_eq_some.mp he
  rw [descriptorOf_of_get? hg, hd]
  rfl

/-- No other group has an entry for the descriptor of an active group. -/
theorem number?_ne_of_ne {r : Reactor α} (hr : r.WellFormed) {g k : Handle} (hg : g ∈ r.active)
    {e : PollEntry} (he : r.entryOf k = some e) (hne : g ≠ k) :
    (r.descriptorOf g).number? ≠ some e.number := by
  intro hn
  obtain ⟨group, hgroup⟩ := hr.exists_group hg
  obtain ⟨other, number, hk, hd, -, rfl⟩ := entryOf_eq_some.mp he
  rw [descriptorOf_of_get? hgroup] at hn
  refine hne (hr.descriptor_inj g k group other hgroup hk ?_)
  cases hgd : group.descriptor with
  | timer => simp [hgd, Descriptor.number?] at hn
  | fd m =>
    rw [hgd] at hn
    rw [hd]
    exact congrArg Descriptor.fd (Option.some.inj hn)

theorem firedOf_cons_none {r : Reactor α} {g : Handle} {rest : List Handle}
    {reported : List Conditions} (he : r.entryOf g = none) :
    r.firedOf (g :: rest) reported = (g, .none) :: r.firedOf rest reported := by
  cases reported <;> simp [firedOf, he]

theorem firedOf_cons_nil {r : Reactor α} {g : Handle} {rest : List Handle} :
    r.firedOf (g :: rest) [] = (g, .none) :: r.firedOf rest [] := by
  cases he : r.entryOf g <;> simp [firedOf, he]

theorem firedOf_cons_some {r : Reactor α} {g : Handle} {rest : List Handle} {e : PollEntry}
    {c : Conditions} {reported : List Conditions} (he : r.entryOf g = some e) :
    r.firedOf (g :: rest) (c :: reported) = (g, c.fired) :: r.firedOf rest reported := by
  simp [firedOf, he]

/-- Answers by position are answers by number. The induction goes over the groups that are still to be
served, with the answers that are left for them. -/
theorem firedOf_eq {r : Reactor α} (hr : r.WellFormed) :
    ∀ (l : List Handle) (reported : List Conditions), l ⊆ r.active → l.Nodup →
      r.firedOf l reported =
        l.map fun g => (g, readinessIn (l.filterMap r.entryOf) reported (r.descriptorOf g))
  | [], _, _, _ => rfl
  | g :: rest, reported, hsub, hnd => by
    have hsub' : rest ⊆ r.active := fun k hk => hsub (List.mem_cons_of_mem _ hk)
    have hgrest : g ∉ rest := (List.nodup_cons.mp hnd).1
    have hne : ∀ k ∈ rest, k ≠ g := fun k hk he => hgrest (he ▸ hk)
    have ih := fun reported => firedOf_eq hr rest reported hsub' (List.nodup_cons.mp hnd).2
    cases he : r.entryOf g with
    | none =>
      -- no entry, so no answer is used up, and no other group has the descriptor
      have hnot : readinessIn (rest.filterMap r.entryOf) reported (r.descriptorOf g) = .none := by
        refine readinessIn_of_not_mem fun e hm => ?_
        obtain ⟨k, hk, hke⟩ := List.mem_filterMap.mp hm
        exact number?_ne_of_ne hr (hsub List.mem_cons_self) hke (hne k hk).symm
      rw [firedOf_cons_none he, ih, List.filterMap_cons_none he, List.map_cons, hnot]
    | some e =>
      cases reported with
      | nil =>
        rw [firedOf_cons_nil, ih, List.map_cons, readinessIn_nil_right]
        simp only [readinessIn_nil_right]
      | cons c cs =>
        rw [firedOf_cons_some he, ih, List.filterMap_cons_some he, List.map_cons,
          readinessIn_cons_self (number?_descriptorOf he)]
        refine congrArg _ (List.map_congr_left fun k hk => ?_)
        rw [readinessIn_cons_ne (number?_ne_of_ne hr (hsub' hk) he (hne k hk))]

/-- **Each group gets the answer for its own descriptor.** -/
theorem firedOf_active {r : Reactor α} (hr : r.WellFormed) (reported : List Conditions) :
    r.firedOf r.active reported =
      r.active.map fun g => (g, r.readiness reported (r.descriptorOf g)) :=
  firedOf_eq hr r.active reported (List.Subset.refl _) hr.active_nodup

/-- The timer and a descriptor without interest get nothing. -/
theorem readiness_of_not_polled {r : Reactor α} (hr : r.WellFormed) (reported : List Conditions)
    {g : Handle} {group : Group} (hg : r.groups.get? g = some group)
    (h : group.descriptor = .timer ∨ (r.interestOf g).isEmpty = true) :
    r.readiness reported group.descriptor = .none := by
  refine readinessIn_of_not_mem fun e hm => ?_
  obtain ⟨k, hk, hke⟩ := List.mem_filterMap.mp hm
  rw [← descriptorOf_of_get? hg]
  refine number?_ne_of_ne hr (hr.mem_active_of_get? hg) hke ?_
  rintro rfl
  obtain ⟨other, number, ho, hd, hi, -⟩ := entryOf_eq_some.mp hke
  rw [hg] at ho
  cases ho
  rcases h with h | h
  · rw [hd] at h
    cases h
  · exact hi h

/-- A polled descriptor has one entry, and gets the conditions reported for it. -/
theorem readiness_of_polled {r : Reactor α} (hr : r.WellFormed) (reported : List Conditions)
    {g : Handle} {group : Group} {number : Int32} (hg : r.groups.get? g = some group)
    (hd : group.descriptor = .fd number) (hi : ¬(r.interestOf g).isEmpty = true) :
    ∃ k : Nat, r.pollSet[k]? = some (.ofInterest number (r.interestOf g)) ∧
      (∀ (j : Nat) e, r.pollSet[j]? = some e → e.number = number → j = k) ∧
      r.readiness reported group.descriptor = (reported[k]?.getD .none).fired := by
  have he : r.entryOf g = some (.ofInterest number (r.interestOf g)) :=
    entryOf_eq_some.mpr ⟨group, number, hg, hd, hi, rfl⟩
  have hmem : PollEntry.ofInterest number (r.interestOf g) ∈ r.pollSet :=
    List.mem_filterMap.mpr ⟨g, hr.mem_active_of_get? hg, he⟩
  obtain ⟨k, hk⟩ := List.mem_iff_getElem?.mp hmem
  have honly : ∀ (j : Nat) e, r.pollSet[j]? = some e → e.number = number → j = k := by
    intro j e hj hn
    have hnd := pollSet_numbers_nodup hr
    have hjm : (r.pollSet.map PollEntry.number)[j]? = some number := by
      rw [List.getElem?_map, hj, Option.map_some, hn]
    have hkm : (r.pollSet.map PollEntry.number)[k]? = some number := by
      rw [List.getElem?_map, hk]
      rfl
    have hlt : j < (r.pollSet.map PollEntry.number).length := (List.getElem?_eq_some_iff.mp hjm).1
    exact (List.getElem?_inj hlt hnd).mp (hjm.trans hkm.symm)
  exact ⟨k, hk, honly, readinessIn_of_getElem? hk (by rw [hd]; rfl) honly⟩

end Reactor

end EventLoop
