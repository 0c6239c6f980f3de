import EventLoop.Proofs.Reactor.Refusal
import EventLoop.Proofs.Reactor.Withdrawal

/-!
# Withdrawing several notifications

What a withdrawal leaves depends on nothing but what is gone. So the outcome of several of them is told by the
handles alone, and their order cannot matter.

* `Thins.trans` — groups that lose members twice.
* `Withdraws.sheds` — one withdrawal after another (`Reactor.Sheds`).
* `Sheds.holdsSame` — the same handles leave the same behind, whatever their order.
* `Arms.undone` — a registration is undone by the withdrawal of its handle.
-/

namespace EventLoop

variable {α : Type}

/-! ## Losing members twice -/

theorem Group.bind_thin (first second : Handle → Bool) (group : Group) :
    (group.thin first).bind (Group.thin second) = group.thin fun h => second h && first h := by
  have hfilter : group.pending.filter (fun h => second h && first h) =
      (group.pending.filter first).filter second := List.filter_filter.symm
  unfold thin
  rw [hfilter]
  by_cases hempty : (group.pending.filter first).isEmpty = true
  · rw [if_pos hempty, List.isEmpty_iff.mp hempty]
    rfl
  · rw [if_neg hempty]
    rfl

namespace Reactor

variable {r r₁ r₂ : Reactor α} {first second : Handle → Bool}

theorem Thins.trans (t : r.Thins first r₁) (t' : r₁.Thins second r₂) :
    r.Thins (fun h => second h && first h) r₂ where
  groups := t'.groups
  get? g := by
    rw [t'.get?, t.get?, Option.bind_assoc]
    exact congrArg (Option.bind _) (funext fun group => group.bind_thin first second)
  active := by
    rw [t'.active, t.active, List.filter_filter]
    refine List.filter_congr fun g _ => ?_
    rw [t.pendingOf_eq, Bool.eq_iff_iff, Bool.and_eq_true, List.any_eq_true, List.any_eq_true,
      List.any_eq_true]
    constructor
    · rintro ⟨⟨h, hmem, hsecond⟩, -⟩
      obtain ⟨hmem, hfirst⟩ := List.mem_filter.mp hmem
      exact ⟨h, hmem, by rw [hsecond, hfirst]; rfl⟩
    · rintro ⟨h, hmem, hboth⟩
      rw [Bool.and_eq_true] at hboth
      exact ⟨⟨h, List.mem_filter.mpr ⟨hmem, hboth.2⟩, hboth.1⟩, h, hmem, hboth.2⟩

/-- Nothing is lost that passes the test. -/
theorem WellFormed.thins_refl (hr : r.WellFormed) {keep : Handle → Bool} (hkeep : ∀ h, keep h = true) :
    r.Thins keep r where
  groups := hr.groups
  get? _ := (hr.bind_thin_of_forall fun h _ => hkeep h).symm
  active := (List.filter_eq_self.mpr fun _ hg => hr.any_of_forall hg fun h _ => hkeep h).symm

/-! ## One withdrawal after another -/

/-- The notifications with these handles are gone from the groups and from the ready queue. Those that are left
keep their order, and so do the groups that are not left empty. -/
structure Sheds (r : Reactor α) (hs : List Handle) (r' : Reactor α) : Prop where
  thins : r.Thins (fun h => decide (h ∉ hs)) r'
  ready : r'.ready = r.ready.filter fun h => decide (h ∉ hs)
  notification : ∀ h, r'.notifications.get? h = if h ∈ hs then none else r.notifications.get? h
  pending : r'.pending + hs.length = r.pending

theorem WellFormed.sheds_nil (hr : r.WellFormed) : r.Sheds [] r where
  thins := hr.thins_refl fun _ => decide_eq_true List.not_mem_nil
  ready := (List.filter_eq_self.mpr fun _ _ => decide_eq_true List.not_mem_nil).symm
  notification _ := (if_neg List.not_mem_nil).symm
  pending := rfl

/-- **One more withdrawal takes away one more notification.** -/
theorem Withdraws.sheds {h : Handle} {hs : List Handle} (w : r.Withdraws h r₁) (s : r₁.Sheds hs r₂) :
    r.Sheds (h :: hs) r₂ := by
  have hkeep : (fun k => decide (k ∉ h :: hs)) = fun k => decide (k ∉ hs) && decide (k ≠ h) := by
    funext k
    simp [Bool.and_comm]
  refine ⟨?_, ?_, fun k => ?_, ?_⟩
  · rw [hkeep]
    exact w.thins.trans s.thins
  · rw [hkeep, s.ready, w.ready, List.filter_filter]
  · rw [s.notification, w.notifications.get?]
    by_cases hk : k = h
    · simp [hk]
    · simp [hk]
  · have hone : r₁.pending + 1 = r.pending := w.notifications.activeCount
    have hrest := s.pending
    rw [List.length_cons]
    omega

theorem Sheds.perm {hs hs' : List Handle} (s : r.Sheds hs r₁) (hperm : hs.Perm hs') : r.Sheds hs' r₁ := by
  have hkeep : (fun h => decide (h ∉ hs)) = fun h => decide (h ∉ hs') := by
    funext h
    rw [decide_eq_decide, hperm.mem_iff]
  refine ⟨hkeep ▸ s.thins, hkeep ▸ s.ready, fun h => ?_, hperm.length_eq ▸ s.pending⟩
  rw [s.notification]
  exact if_congr hperm.mem_iff rfl rfl

/-- **Where the same handles are gone, the same is left.** -/
theorem Sheds.holdsSame {hs : List Handle} (s : r.Sheds hs r₁) (s' : r.Sheds hs r₂) : r₁.HoldsSame r₂ where
  active := by rw [s'.thins.active, s.thins.active]
  group g := by rw [s'.thins.get?, s.thins.get?]
  notification h := by rw [s'.notification, s.notification]
  ready := by rw [s'.ready, s.ready]
  pending := Nat.add_right_cancel (s'.pending.trans s.pending.symm)

/-! ## A registration and its withdrawal -/

variable {request : Request α} {due : Option Instant} {h g : Handle}

/-- The group of a registration, once the notification is gone again. -/
theorem Arms.thin_group (a : r.Arms request due h g r₁) (hr : r.WellFormed) :
    (r₁.groups.get? g).bind (Group.thin fun k => decide (k ≠ h)) = r.groups.get? g := by
  have hpending : (r.pendingOf g ++ [h]).filter (fun k => decide (k ≠ h)) = r.pendingOf g := by
    rw [List.filter_append, filter_ne_of_not_mem (a.not_mem_pendingOf hr g)]
    simp
  rw [a.get?, if_pos rfl, Option.bind_some, Group.thin, hpending]
  cases hg : r.groups.get? g with
  | none =>
    rw [pendingOf_of_none hg]
    rfl
  | some group =>
    have hdescriptor := (a.descriptor g group hg).mpr rfl
    rw [pendingOf_of_get? hg, if_neg, ← hdescriptor]
    exact fun hempty => hr.pending_ne_nil g group hg (List.isEmpty_iff.mp hempty)

/-- **The withdrawal of the handle that a registration gave undoes the registration.** -/
theorem Arms.undone (a : r.Arms request due h g r₁) (hr : r.WellFormed) (w : r₁.Withdraws h r₂) :
    r.HoldsSame r₂ where
  active := by
    have hstays : ∀ k ∈ r.active, (r₁.pendingOf k).any (fun x => decide (x ≠ h)) = true := by
      intro k hk
      have hother : ∀ x ∈ r.pendingOf k, decide (x ≠ h) = true := by
        intro x hx
        rw [decide_eq_true_eq]
        rintro rfl
        exact a.not_mem_pendingOf hr k hx
      have hany := hr.any_of_forall hk hother
      rw [a.pendingOf_eq]
      split
      · next hkg =>
        rw [List.any_append, ← hkg, hany]
        rfl
      · exact hany
    rw [w.thins.active, a.active]
    by_cases hg : r.groups.contains g = true
    · rw [if_pos hg]
      exact List.filter_eq_self.mpr hstays
    · -- the group was opened for the notification, and goes with it
      have hnone : r.groups.get? g = none := by simpa [Pool.contains] using hg
      have hgone : (r₁.pendingOf g).any (fun x => decide (x ≠ h)) = false := by
        rw [a.pendingOf_eq, if_pos rfl, pendingOf_of_none hnone]
        simp
      rw [if_neg hg, List.filter_append, List.filter_eq_self.mpr hstays, List.filter_singleton, hgone]
      exact List.append_nil _
  group k := by
    rw [w.thins.get?]
    by_cases hk : k = g
    · rw [hk]
      exact a.thin_group hr
    · rw [a.get?, if_neg hk]
      refine hr.bind_thin_of_forall fun x hx => ?_
      rw [decide_eq_true_eq]
      rintro rfl
      exact a.not_mem_pendingOf hr k hx
  notification k := by
    rw [w.notifications.get?, a.notifications.get?]
    split
    · next hk => rw [hk, a.notifications.absent]
    · rfl
  ready := by
    have hnot : h ∉ r.ready := by
      rw [hr.mem_ready, a.notifications.absent]
      rintro ⟨n, hn, -⟩
      cases hn
    rw [w.ready, a.ready, filter_ne_of_not_mem hnot]
  pending := Nat.add_right_cancel (w.notifications.activeCount.trans a.notifications.activeCount)

end Reactor

end EventLoop
