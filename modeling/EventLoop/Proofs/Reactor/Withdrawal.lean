import EventLoop.Proofs.Reactor.Registration

/-!
# What a withdrawal does

Withdrawing a notification and selecting notifications have in common that groups lose members and are
retired with their last one. `Reactor.Thins` says so for both: every group keeps, in order, the members
that a test accepts, and the groups that keep any stay active, in order.

* `WellFormed.of_thins` — what it takes for the records to agree afterwards.
* `withdraws_of_cancel` — a successful withdrawal takes out one notification (`Reactor.Withdraws`).
* `cancel_eq` — it succeeds for the notifications that are still to be dispatched, and only for them.
-/

namespace EventLoop

variable {α : Type}

/-- A group with those of its notifications that a test accepts; none if nothing is left. -/
def Group.thin (keep : Handle → Bool) (group : Group) : Option Group :=
  if (group.pending.filter keep).isEmpty then none
  else some { group with pending := group.pending.filter keep }

theorem Group.thin_of_any {keep : Handle → Bool} {group : Group} (h : group.pending.any keep = true) :
    group.thin keep = some { group with pending := group.pending.filter keep } := by
  unfold thin
  rw [if_neg]
  simpa using h

theorem Group.thin_of_not_any {keep : Handle → Bool} {group : Group}
    (h : ¬group.pending.any keep = true) : group.thin keep = none := by
  unfold thin
  rw [if_pos]
  simpa using h

theorem Group.thin_eq_some {keep : Handle → Bool} {group group' : Group}
    (h : group.thin keep = some group') :
    group.pending.any keep = true ∧ group' = { group with pending := group.pending.filter keep } := by
  by_cases ha : group.pending.any keep = true
  · rw [thin_of_any ha] at h
    exact ⟨ha, (Option.some.inj h).symm⟩
  · rw [thin_of_not_any ha] at h
    cases h

/-- A group that loses nothing stays. -/
theorem Group.thin_of_forall {keep : Handle → Bool} {group : Group} (hne : group.pending ≠ [])
    (h : ∀ x ∈ group.pending, keep x = true) : group.thin keep = some group := by
  have ha : group.pending.any keep = true := by
    obtain ⟨x, hx⟩ := List.exists_mem_of_ne_nil _ hne
    exact List.any_eq_true.mpr ⟨x, hx, h x hx⟩
  rw [thin_of_any ha, List.filter_eq_self.mpr h]

namespace Reactor

/-! ## Groups lose members -/

/-- Every group keeps the members that a test accepts, and is retired if there are none. -/
structure Thins (r : Reactor α) (keep : Handle → Bool) (r' : Reactor α) : Prop where
  groups : r'.groups.WellFormed
  get? : ∀ g, r'.groups.get? g = (r.groups.get? g).bind (Group.thin keep)
  active : r'.active = r.active.filter fun g => (r.pendingOf g).any keep

namespace Thins

variable {r r' : Reactor α} {keep : Handle → Bool}

theorem pendingOf_eq (t : r.Thins keep r') (g : Handle) :
    r'.pendingOf g = (r.pendingOf g).filter keep := by
  cases hg : r.groups.get? g with
  | none => simp [pendingOf, t.get?, hg]
  | some group =>
    by_cases ha : group.pending.any keep = true
    · simp [pendingOf, t.get?, hg, Group.thin_of_any ha]
    · simp only [pendingOf, t.get?, hg, Option.bind_some, Group.thin_of_not_any ha]
      simpa using ha

theorem get?_eq_some (t : r.Thins keep r') {g : Handle} {group' : Group}
    (h : r'.groups.get? g = some group') :
    ∃ group, r.groups.get? g = some group ∧ group.pending.any keep = true ∧
      group' = { group with pending := group.pending.filter keep } := by
  rw [t.get?] at h
  obtain ⟨group, hg, ht⟩ := Option.bind_eq_some_iff.mp h
  exact ⟨group, hg, Group.thin_eq_some ht⟩

end Thins

/-- A group whose members all pass the test stays as it is. -/
theorem WellFormed.bind_thin_of_forall {r : Reactor α} {keep : Handle → Bool} (hr : r.WellFormed)
    {g : Handle} (h : ∀ x ∈ r.pendingOf g, keep x = true) :
    (r.groups.get? g).bind (Group.thin keep) = r.groups.get? g := by
  cases hg : r.groups.get? g with
  | none => rfl
  | some group =>
    rw [pendingOf_of_get? hg] at h
    exact Group.thin_of_forall (hr.pending_ne_nil g group hg) h

theorem WellFormed.any_of_forall {r : Reactor α} {keep : Handle → Bool} (hr : r.WellFormed)
    {g : Handle} (hg : g ∈ r.active) (h : ∀ x ∈ r.pendingOf g, keep x = true) :
    (r.pendingOf g).any keep = true := by
  obtain ⟨group, hgroup⟩ := hr.exists_group hg
  obtain ⟨x, hx⟩ := List.exists_mem_of_ne_nil _ (hr.pending_ne_nil g group hgroup)
  rw [← pendingOf_of_get? hgroup] at hx
  exact List.any_eq_true.mpr ⟨x, hx, h x hx⟩

/-- When groups lose members, the records agree if the notifications tell of the same loss. -/
theorem WellFormed.of_thins {r r' : Reactor α} {keep : Handle → Bool} (hr : r.WellFormed)
    (t : r.Thins keep r') (hn : r'.notifications.WellFormed)
    (hmem : ∀ g h, (∃ n, r'.notifications.get? h = some n ∧ n.place = .group g) ↔
      keep h = true ∧ ∃ n, r.notifications.get? h = some n ∧ n.place = .group g)
    (hdesc : ∀ h n', r'.notifications.get? h = some n' →
      ∃ n, r.notifications.get? h = some n ∧ n'.descriptor = n.descriptor)
    (hnd : r'.ready.Nodup)
    (hready : ∀ h, h ∈ r'.ready ↔ ∃ n, r'.notifications.get? h = some n ∧ n.place = .ready)
    (hsound : ∀ h n, r'.notifications.get? h = some n → n.Sound) : r'.WellFormed where
  groups := t.groups
  notifications := hn
  active_nodup := by
    rw [t.active]
    exact hr.active_nodup.filter _
  mem_active g := by
    rw [t.active, List.mem_filter, hr.mem_active g, Pool.contains, Pool.contains, t.get?]
    cases hg : r.groups.get? g with
    | none => simp
    | some group =>
      rw [pendingOf_of_get? hg]
      by_cases ha : group.pending.any keep = true
      · simp [Group.thin_of_any ha, ha]
      · simp [Group.thin_of_not_any ha, ha]
  pending_ne_nil g group' hg' := by
    obtain ⟨group, -, ha, rfl⟩ := t.get?_eq_some hg'
    simpa using ha
  pending_nodup g group' hg' := by
    obtain ⟨group, hg, -, rfl⟩ := t.get?_eq_some hg'
    exact (hr.pending_nodup g group hg).filter _
  descriptor_inj g k a b ha hb he := by
    obtain ⟨c, hc, -, rfl⟩ := t.get?_eq_some ha
    obtain ⟨d, hd, -, rfl⟩ := t.get?_eq_some hb
    exact hr.descriptor_inj g k c d hc hd he
  mem_pending g group' h hg' := by
    obtain ⟨group, hg, -, rfl⟩ := t.get?_eq_some hg'
    rw [hmem, List.mem_filter, hr.mem_pending g group h hg, and_comm]
  group_of_place h n' g hn' hp := by
    obtain ⟨hk, n, hn, hpn⟩ := (hmem g h).mp ⟨n', hn', hp⟩
    obtain ⟨m, hm, hd⟩ := hdesc h n' hn'
    rw [hn] at hm
    cases hm
    obtain ⟨group, hg, hgd⟩ := hr.group_of_place h n g hn hpn
    have hx : h ∈ group.pending := (hr.mem_pending g group h hg).mpr ⟨n, hn, hpn⟩
    refine ⟨{ group with pending := group.pending.filter keep }, ?_, hgd.trans hd.symm⟩
    rw [t.get?, hg, Option.bind_some, Group.thin_of_any (List.any_eq_true.mpr ⟨h, hx, hk⟩)]
  ready_nodup := hnd
  mem_ready := hready
  sound := hsound

/-! ## One notification goes -/

/-- A notification is taken out of its group or of the ready queue, and its slot is given back. -/
structure Withdraws (r : Reactor α) (h : Handle) (r' : Reactor α) : Prop where
  notifications : r.notifications.Drops h r'.notifications
  thins : r.Thins (fun k => decide (k ≠ h)) r'
  ready : r'.ready = r.ready.filter fun k => decide (k ≠ h)
  floor : r'.floor = r.floor

theorem Withdraws.wellFormed {r r' : Reactor α} {h : Handle} (w : r.Withdraws h r')
    (hr : r.WellFormed) : r'.WellFormed := by
  refine hr.of_thins w.thins w.notifications.wellFormed ?_ ?_ ?_ ?_ ?_
  · intro g k
    rw [w.notifications.get?]
    by_cases hk : k = h
    · simp [hk]
    · simp [hk]
  · intro k n hn
    rw [w.notifications.get?] at hn
    split at hn
    · cases hn
    · exact ⟨n, hn, rfl⟩
  · rw [w.ready]
    exact hr.ready_nodup.filter _
  · intro k
    rw [w.ready, List.mem_filter, hr.mem_ready k, w.notifications.get?]
    by_cases hk : k = h
    · simp [hk]
    · simp [hk]
  · intro k n hn
    rw [w.notifications.get?] at hn
    split at hn
    · cases hn
    · exact hr.sound k n hn

/-! ## The operation -/

/-- Taking a member out of its group. -/
theorem thins_of_detach {r : Reactor α} {g h : Handle} (hr : r.WellFormed) (hh : h ∈ r.pendingOf g) :
    r.Thins (fun k => decide (k ≠ h)) (r.detach g h) := by
  have hother : ∀ k, k ≠ g → ∀ x ∈ r.pendingOf k, decide (x ≠ h) = true := by
    intro k hk x hx
    rw [decide_eq_true_eq]
    rintro rfl
    exact hk (hr.eq_of_mem_pendingOf hx hh)
  cases hg : r.groups.get? g with
  | none =>
    rw [pendingOf_of_none hg] at hh
    cases hh
  | some group =>
    have hmod := hr.groups.modify g fun c =>
      { c with pending := group.pending.filter fun k => decide (k ≠ h) }
    unfold detach
    rw [hg]
    dsimp only
    split
    · -- it was the last one, so its group goes
      next hempty =>
      have hdrop := Pool.drops_of_discard hmod
        (by simp [Pool.contains, Pool.get?_modify, hg] : Pool.contains _ g = true)
      have hany : group.pending.any (fun x => decide (x ≠ h)) = false := by simpa using hempty
      refine ⟨hdrop.wellFormed, fun k => ?_, List.filter_congr fun k hk => ?_⟩
      · show Pool.get? _ k = _
        rw [hdrop.get?, Pool.get?_modify]
        by_cases hkg : k = g
        · rw [if_pos hkg, hkg, hg, Option.bind_some, Group.thin, if_pos hempty]
        · rw [if_neg hkg, if_neg hkg, hr.bind_thin_of_forall (hother k hkg)]
      · by_cases hkg : k = g
        · rw [hkg, pendingOf_of_get? hg, hany]
          simp
        · rw [hr.any_of_forall hk (hother k hkg)]
          simpa using hkg
    · -- its group stays, and no other group has it as a member
      next hne =>
      have hany : group.pending.any (fun x => decide (x ≠ h)) = true := by simpa using hne
      refine ⟨hmod, fun k => ?_, (List.filter_eq_self.mpr fun k hk => ?_).symm⟩
      · show Pool.get? _ k = _
        rw [Pool.get?_modify]
        by_cases hkg : k = g
        · rw [if_pos hkg, hkg, hg, Option.bind_some, Group.thin, if_neg hne]
          rfl
        · rw [if_neg hkg, hr.bind_thin_of_forall (hother k hkg)]
      · by_cases hkg : k = g
        · rw [hkg, pendingOf_of_get? hg, hany]
        · exact hr.any_of_forall hk (hother k hkg)

theorem detach_notifications (r : Reactor α) (g h : Handle) :
    (r.detach g h).notifications = r.notifications := by
  unfold detach
  split
  · rfl
  · dsimp only
    split <;> rfl

theorem detach_ready (r : Reactor α) (g h : Handle) : (r.detach g h).ready = r.ready := by
  unfold detach
  split
  · rfl
  · dsimp only
    split <;> rfl

theorem detach_floor (r : Reactor α) (g h : Handle) : (r.detach g h).floor = r.floor := by
  unfold detach
  split
  · rfl
  · dsimp only
    split <;> rfl

theorem filter_ne_of_not_mem {l : List Handle} {h : Handle} (hh : h ∉ l) :
    (l.filter fun k => decide (k ≠ h)) = l := by
  refine List.filter_eq_self.mpr fun k hk => ?_
  rw [decide_eq_true_eq]
  rintro rfl
  exact hh hk

/-- What a successful withdrawal does. -/
theorem withdraws_of_cancel {r r' : Reactor α} {h : Handle} (hr : r.WellFormed)
    (hc : r.cancel h = (.ok (), r')) : r.Withdraws h r' := by
  unfold cancel at hc
  split at hc
  · cases (Prod.mk.inj hc).1
  · next n hn =>
    have hcontains : r.notifications.contains h = true := Pool.contains_eq_true.mpr ⟨n, hn⟩
    split at hc
    · next g hp =>
      cases (Prod.mk.inj hc).2
      have hh : h ∈ r.pendingOf g := hr.mem_pendingOf.mpr ⟨n, hn, hp⟩
      have ht := thins_of_detach hr hh
      refine ⟨?_, ⟨ht.groups, ht.get?, ht.active⟩, ?_, detach_floor r g h⟩
      · show r.notifications.Drops h ((r.detach g h).notifications.discard h)
        rw [detach_notifications]
        exact Pool.drops_of_discard hr.notifications hcontains
      · show (r.detach g h).ready = _
        rw [detach_ready, filter_ne_of_not_mem (hr.not_mem_ready hh)]
    · next hp =>
      cases (Prod.mk.inj hc).2
      -- a notification in the queue waits in no group, so no group loses anything
      have hnot : ∀ g, h ∉ r.pendingOf g := fun g hg =>
        hr.not_mem_ready hg ((hr.mem_ready h).mpr ⟨n, hn, hp⟩)
      refine ⟨Pool.drops_of_discard hr.notifications hcontains, ?_, ?_, rfl⟩
      · have hkeep : ∀ g, ∀ x ∈ r.pendingOf g, decide (x ≠ h) = true := by
          intro g x hx
          rw [decide_eq_true_eq]
          rintro rfl
          exact hnot g hx
        refine ⟨hr.groups, fun g => (hr.bind_thin_of_forall (hkeep g)).symm, ?_⟩
        exact (List.filter_eq_self.mpr fun g hg => hr.any_of_forall hg (hkeep g)).symm
      · show r.ready.erase h = _
        rw [hr.ready_nodup.erase_eq_filter]
        exact List.filter_congr fun k _ => by rw [Bool.eq_iff_iff, bne_iff_ne, decide_eq_true_eq]
    · cases (Prod.mk.inj hc).1

/-- A withdrawal succeeds for what is still to be dispatched, and otherwise changes nothing. -/
theorem cancel_eq {r : Reactor α} (hr : r.WellFormed) (h : Handle) :
    (r.isPending h = true ∧ (r.cancel h).1 = .ok ()) ∨
      (r.isPending h = false ∧ r.cancel h = (.error .stale, r)) := by
  unfold isPending Pool.contains cancel
  cases hn : r.notifications.get? h with
  | none => exact Or.inr ⟨rfl, rfl⟩
  | some n =>
    refine Or.inl ⟨rfl, ?_⟩
    dsimp only
    split
    · rfl
    · rfl
    · next hp => exact absurd hp (hr.sound h n hn).place

end Reactor

end EventLoop
