import EventLoop.Proofs.Reactor.Withdrawal

/-!
# What a dispatch does

A dispatch takes the first notification off the ready queue and gives its slot back before the callback
runs. `Reactor.Takes` says what that amounts to.

* `takeReady_cases` — if there is a first in the queue it can be dispatched, and the event is what was
  noted down for it.
* `Takes.wellFormed` — the records still agree.
-/

namespace EventLoop

variable {α : Type}

/-- The event is what a callback is given when the notification is dispatched. -/
structure Notification.Tells (n : Notification α) (e : Event α) : Prop where
  descriptor : e.descriptor = n.descriptor
  triggered : e.triggered = n.triggered
  payload : n.payload = some (e.callback, e.arg)

namespace Reactor

/-- The first of the ready queue is taken out, and its slot is given back. -/
structure Takes (r : Reactor α) (h : Handle) (e : Event α) (r' : Reactor α) : Prop where
  ready : r.ready = h :: r'.ready
  notifications : r.notifications.Drops h r'.notifications
  tells : ∃ n, r.notifications.get? h = some n ∧ n.place = .ready ∧ n.Tells e
  groups : r'.groups = r.groups
  active : r'.active = r.active
  floor : r'.floor = r.floor

/-- The first in the queue is live and has its callback, so it is never skipped. -/
theorem takeReady_cases {r : Reactor α} (hr : r.WellFormed) :
    (r.ready = [] ∧ r.takeReady = none) ∨
      ∃ h e r', r.takeReady = some (some e, r') ∧ r.Takes h e r' := by
  unfold takeReady
  cases hq : r.ready with
  | nil => exact Or.inl ⟨rfl, rfl⟩
  | cons h rest =>
    obtain ⟨n, hn, hp⟩ := (hr.mem_ready h).mp (by rw [hq]; exact List.mem_cons_self)
    have hrel : r.notifications.release h = some (n, r.notifications.released h) := by
      rw [Pool.release, Pool.releaseWith, hn]
      rfl
    obtain ⟨payload, hpay⟩ := Option.isSome_iff_exists.mp (hr.sound h n hn).payload
    refine Or.inr ⟨h, ?_⟩
    dsimp only
    rw [hrel]
    dsimp only
    rw [hpay]
    exact ⟨_, _, rfl, hq, (Pool.drops_of_release hr.notifications hrel).2,
      ⟨n, hn, hp, rfl, rfl, hpay⟩, rfl, rfl, rfl⟩

/-- What is first in the queue is dispatched, and the others are left. -/
theorem exists_takes {r : Reactor α} (hr : r.WellFormed) {h : Handle} {rest : List Handle}
    (hq : r.ready = h :: rest) :
    ∃ e r', r.takeReady = some (some e, r') ∧ r.Takes h e r' ∧ r'.ready = rest := by
  rcases takeReady_cases hr with ⟨hnil, -⟩ | ⟨k, e, r', ht, htakes⟩
  · rw [hq] at hnil
    cases hnil
  · have hsplit := htakes.ready
    rw [hq, List.cons.injEq] at hsplit
    obtain ⟨rfl, rfl⟩ := hsplit
    exact ⟨e, r', ht, htakes, rfl⟩

theorem takeReady_of_nil {r : Reactor α} (hq : r.ready = []) : r.takeReady = none := by
  rw [takeReady, hq]

/-- A dispatch keeps the records in agreement. -/
theorem Takes.wellFormed {r r' : Reactor α} {h : Handle} {e : Event α} (t : r.Takes h e r')
    (hr : r.WellFormed) : r'.WellFormed := by
  obtain ⟨n, hn, hp, -⟩ := t.tells
  have hmem : h ∈ r.ready := by
    rw [t.ready]
    exact List.mem_cons_self
  have hnot : ∀ g, ∀ x ∈ r.pendingOf g, decide (x ≠ h) = true := by
    intro g x hx
    rw [decide_eq_true_eq]
    rintro rfl
    exact hr.not_mem_ready hx hmem
  have hnd : (h :: r'.ready).Nodup := t.ready ▸ hr.ready_nodup
  -- a withdrawal of the first in the queue leaves the same reactor behind
  refine Withdraws.wellFormed (h := h) ⟨t.notifications, ⟨?_, fun g => ?_, ?_⟩, ?_, t.floor⟩ hr
  · rw [t.groups]
    exact hr.groups
  · rw [t.groups]
    exact (hr.bind_thin_of_forall (hnot g)).symm
  · rw [t.active]
    exact (List.filter_eq_self.mpr fun g hg => hr.any_of_forall hg (hnot g)).symm
  · rw [t.ready, List.filter_cons_of_neg (by simp), filter_ne_of_not_mem (List.nodup_cons.mp hnd).1]

end Reactor

end EventLoop
