import EventLoop.Proofs.Reactor.Cancellation

/-!
# What a lookup finds, and what is left without it

A lookup searches the groups for a descriptor and then the notifications of the group for a callback. What it can
find is the list of the notifications that wait on the descriptor with the callback, and it finds the first of them.

* `lookup_eq_head?` — what is found.
* `Withdraws.waitingWith_eq` — a withdrawal takes the notification out of that list.
* `Sheds.clears` — what is left once the whole list is withdrawn (`Reactor.Clears`).
-/

namespace EventLoop

variable {α : Type}

namespace Reactor

variable {r r' : Reactor α} {d : Descriptor} {callback : Callback} {g h : Handle}

/-- The notifications that wait on a descriptor and were armed with a callback, in the order of their
registration. -/
def waitingWith (r : Reactor α) (d : Descriptor) (callback : Callback) : List Handle :=
  (r.waitingOn d).filter (r.armedWith callback)

/-! ## Two searches -/

theorem waitingOn_of_some (hg : r.findGroup d = some g) : r.waitingOn d = r.pendingOf g := by
  rw [waitingOn, hg]
  rfl

theorem waitingOn_of_none (hg : r.findGroup d = none) : r.waitingOn d = [] := by
  rw [waitingOn, hg]
  rfl

theorem mem_waitingOn_iff : h ∈ r.waitingOn d ↔ ∃ g, r.findGroup d = some g ∧ h ∈ r.pendingOf g := by
  cases hg : r.findGroup d with
  | none => simp [waitingOn_of_none hg]
  | some g => simp [waitingOn_of_some hg]

/-- **A lookup finds the first notification that waits on the descriptor with the callback.** -/
theorem lookup_eq_head? (r : Reactor α) (d : Descriptor) (callback : Callback) :
    r.lookup d callback = (r.waitingWith d callback).head? := by
  rw [waitingWith, List.head?_filter]
  unfold lookup
  cases hg : r.findGroup d with
  | none =>
    rw [waitingOn_of_none hg]
    rfl
  | some g =>
    obtain ⟨group, hgroup, -⟩ := findGroup_some hg
    rw [waitingOn_of_some hg, pendingOf_of_get? hgroup]
    show (r.groups.get? g).bind _ = _
    rw [hgroup]
    rfl

theorem lookup_eq_none_iff : r.lookup d callback = none ↔ r.waitingWith d callback = [] := by
  rw [lookup_eq_head?, List.head?_eq_none_iff]

theorem mem_waitingWith :
    h ∈ r.waitingWith d callback ↔ h ∈ r.waitingOn d ∧ r.armedWith callback h = true := List.mem_filter

namespace WellFormed

theorem findGroup_eq_some_iff (hr : r.WellFormed) :
    r.findGroup d = some g ↔ ∃ group, r.groups.get? g = some group ∧ group.descriptor = d := by
  refine ⟨findGroup_some, ?_⟩
  rintro ⟨group, hgroup, hd⟩
  cases hfind : r.findGroup d with
  | none => exact absurd hd (findGroup_none hr hfind hgroup)
  | some k =>
    obtain ⟨other, hother, hd'⟩ := findGroup_some hfind
    rw [hr.descriptor_inj k g other group hother hgroup (hd'.trans hd.symm)]

theorem mem_waitingOn (hr : r.WellFormed) :
    h ∈ r.waitingOn d ↔ ∃ n, r.notifications.get? h = some n ∧ n.descriptor = d ∧ ∃ g, n.place = .group g := by
  rw [mem_waitingOn_iff]
  constructor
  · rintro ⟨g, hg, hh⟩
    obtain ⟨n, hn, hp⟩ := hr.mem_pendingOf.mp hh
    obtain ⟨group, hgroup, hd⟩ := hr.group_of_place h n g hn hp
    obtain ⟨group', hgroup', hd'⟩ := findGroup_some hg
    rw [hgroup] at hgroup'
    cases hgroup'
    exact ⟨n, hn, hd.symm.trans hd', g, hp⟩
  · rintro ⟨n, hn, hd, g, hp⟩
    obtain ⟨group, hgroup, hdesc⟩ := hr.group_of_place h n g hn hp
    exact ⟨g, hr.findGroup_eq_some_iff.mpr ⟨group, hgroup, hdesc.trans hd⟩, hr.mem_pendingOf.mpr ⟨n, hn, hp⟩⟩

theorem waitingOn_nodup (hr : r.WellFormed) (d : Descriptor) : (r.waitingOn d).Nodup := by
  cases hg : r.findGroup d with
  | none =>
    rw [waitingOn_of_none hg]
    exact List.nodup_nil
  | some g =>
    rw [waitingOn_of_some hg]
    exact hr.pendingOf_nodup g

/-- What waits does not stand in the ready queue. -/
theorem not_mem_ready_of_waitingOn (hr : r.WellFormed) (hh : h ∈ r.waitingOn d) : h ∉ r.ready := by
  obtain ⟨g, -, hp⟩ := mem_waitingOn_iff.mp hh
  exact hr.not_mem_ready hp

/-- What waits on a descriptor waits in no group but that of the descriptor. -/
theorem not_mem_pendingOf (hr : r.WellFormed) (hg : r.findGroup d ≠ some g) (hh : h ∈ r.waitingOn d) :
    h ∉ r.pendingOf g := by
  obtain ⟨k, hk, hp⟩ := mem_waitingOn_iff.mp hh
  intro hp'
  rw [hr.eq_of_mem_pendingOf hp hp'] at hk
  exact hg hk

end WellFormed

/-! ## One withdrawal -/

/-- The groups that are not retired keep their order. -/
theorem Thins.active_eq {keep : Handle → Bool} (t : r.Thins keep r') (hr : r.WellFormed) :
    r'.active = r.active.filter fun g => r'.groups.contains g := by
  rw [t.active]
  refine List.filter_congr fun g hg => ?_
  obtain ⟨group, hgroup⟩ := hr.exists_group hg
  rw [Pool.contains, t.get?, hgroup, Option.bind_some, pendingOf_of_get? hgroup]
  cases hany : group.pending.any keep with
  | true =>
    rw [Group.thin_of_any hany]
    rfl
  | false =>
    rw [Group.thin_of_not_any (Bool.eq_false_iff.mp hany)]
    rfl

/-- What waits on a descriptor, when groups lose members. -/
theorem Thins.waitingOn_eq {keep : Handle → Bool} (t : r.Thins keep r') (hr : r.WellFormed)
    (hr' : r'.WellFormed) (d : Descriptor) : r'.waitingOn d = (r.waitingOn d).filter keep := by
  cases hg : r.findGroup d with
  | none =>
    have hnone : r'.findGroup d = none := by
      rw [Option.eq_none_iff_forall_ne_some]
      intro g hg'
      obtain ⟨group', hgroup', hd⟩ := findGroup_some hg'
      obtain ⟨group, hgroup, -, rfl⟩ := t.get?_eq_some hgroup'
      exact findGroup_none hr hg hgroup hd
    rw [waitingOn_of_none hg, waitingOn_of_none hnone]
    rfl
  | some g =>
    rw [waitingOn_of_some hg, ← t.pendingOf_eq]
    cases hg' : r'.findGroup d with
    | some k =>
      obtain ⟨group', hgroup', hd'⟩ := findGroup_some hg'
      obtain ⟨group, hgroup, -, rfl⟩ := t.get?_eq_some hgroup'
      rw [hr.findGroup_eq_some_iff.mpr ⟨group, hgroup, hd'⟩] at hg
      cases hg
      exact waitingOn_of_some hg'
    | none =>
      -- the group is retired, so nothing passed the test
      rw [waitingOn_of_none hg']
      obtain ⟨group, hgroup, hd⟩ := findGroup_some hg
      have hgone : r'.groups.get? g = none := by
        rw [Option.eq_none_iff_forall_ne_some]
        intro group' hgroup'
        obtain ⟨same, hsame, -, rfl⟩ := t.get?_eq_some hgroup'
        rw [hgroup] at hsame
        cases hsame
        exact findGroup_none hr' hg' hgroup' hd
      exact (pendingOf_of_none hgone).symm

/-- **A withdrawal takes the notification out of what can be found, and nothing else.** -/
theorem Withdraws.waitingWith_eq (w : r.Withdraws h r') (hr : r.WellFormed) (d : Descriptor)
    (callback : Callback) :
    r'.waitingWith d callback = (r.waitingWith d callback).filter fun k => decide (k ≠ h) := by
  have harmed : ∀ k ∈ (r.waitingOn d).filter fun k => decide (k ≠ h),
      r'.armedWith callback k = r.armedWith callback k := by
    intro k hk
    have hne : k ≠ h := of_decide_eq_true (List.mem_filter.mp hk).2
    rw [armedWith, w.notifications.get?, if_neg hne, armedWith]
  rw [waitingWith, w.thins.waitingOn_eq hr (w.wellFormed hr), List.filter_congr harmed, waitingWith,
    List.filter_filter, List.filter_filter]
  exact List.filter_congr fun k _ => Bool.and_comm _ _

/-! ## All of them -/

/-- What waited on a descriptor with a callback is gone, and nothing else. -/
structure Clears (r : Reactor α) (d : Descriptor) (callback : Callback) (r' : Reactor α) : Prop where
  notification : ∀ h, r'.notifications.get? h =
    if h ∈ r.waitingWith d callback then none else r.notifications.get? h
  pending : r'.pending + (r.waitingWith d callback).length = r.pending
  /-- The ready queue is as it was, … -/
  ready : r'.ready = r.ready
  /-- … every group but that of the descriptor is, … -/
  others : ∀ g, r.findGroup d ≠ some g → r'.groups.get? g = r.groups.get? g
  /-- … and that one is retired if all its notifications had the callback, and otherwise keeps those that had not,
  in order. -/
  own : ∀ g, r.findGroup d = some g → r'.groups.get? g =
    if ∀ h ∈ r.pendingOf g, r.armedWith callback h = true then none
    else some { descriptor := d, pending := (r.pendingOf g).filter fun h => !r.armedWith callback h }
  /-- The groups that are not retired keep their order. -/
  active : r'.active = r.active.filter fun g => r'.groups.contains g

/-- In the group of the descriptor, what is not withdrawn is what was not armed with the callback. -/
theorem not_mem_waitingWith_iff (hg : r.findGroup d = some g) (hh : h ∈ r.pendingOf g) :
    decide (h ∉ r.waitingWith d callback) = !r.armedWith callback h := by
  have hwaits : h ∈ r.waitingWith d callback ↔ r.armedWith callback h = true := by
    rw [mem_waitingWith, waitingOn_of_some hg]
    exact and_iff_right hh
  rw [Bool.eq_iff_iff, decide_eq_true_eq, hwaits, Bool.not_eq_true', Bool.not_eq_true]

/-- **What is left once all that a lookup can find is withdrawn.** -/
theorem Sheds.clears (s : r.Sheds (r.waitingWith d callback) r') (hr : r.WellFormed) : r.Clears d callback r' where
  notification := s.notification
  pending := s.pending
  ready := by
    rw [s.ready]
    refine List.filter_eq_self.mpr fun h hh => decide_eq_true fun hmem => ?_
    exact hr.not_mem_ready_of_waitingOn (mem_waitingWith.mp hmem).1 hh
  others g hg := by
    rw [s.thins.get?]
    refine hr.bind_thin_of_forall fun h hh => decide_eq_true fun hmem => ?_
    exact hr.not_mem_pendingOf hg (mem_waitingWith.mp hmem).1 hh
  own g hg := by
    obtain ⟨group, hgroup, hd⟩ := findGroup_some hg
    have hkeep : group.pending.filter (fun h => decide (h ∉ r.waitingWith d callback)) =
        group.pending.filter fun h => !r.armedWith callback h := by
      refine List.filter_congr fun h hh => not_mem_waitingWith_iff hg ?_
      rw [pendingOf_of_get? hgroup]
      exact hh
    rw [s.thins.get?, hgroup, Option.bind_some, Group.thin, hkeep, pendingOf_of_get? hgroup, hd]
    refine if_congr ?_ rfl rfl
    simp
  active := s.thins.active_eq hr

end Reactor

end EventLoop
