import EventLoop.Proofs.Machine.Run

/-!
# One tick

`Reactor.Ticked` says what a tick does to the reactor, once its wait has reported and the clock was read
again: whom it selects and why, in which order they come to the ready queue, and what is left of the groups.

* `ticked_of_selects` — it follows from what a selection does.
* `tick_selects_in_order` — every tick of every run does this.
-/

namespace EventLoop

variable {σ α : Type}

namespace Reactor

/-- Has a tick a reason to select what a handle names? -/
def isMet (r : Reactor α) (reported : List Conditions) (now : Instant) (h : Handle) : Bool :=
  (r.notifications.get? h).any fun n => !(r.maskOf reported now n).isEmpty

/-- What a tick does. -/
structure Ticked (r : Reactor α) (reported : List Conditions) (now : Instant) (r' : Reactor α) : Prop where
  /-- The wait was asked about no descriptor twice. -/
  nodup : (r.pollSet.map PollEntry.number).Nodup
  /-- Nothing comes about for the timer and for a descriptor without interest. -/
  unpolled : ∀ g group, r.groups.get? g = some group →
    group.descriptor = .timer ∨ (r.interestOf g).isEmpty = true →
    r.readiness reported group.descriptor = .none
  /-- For another descriptor, what its own entry reports. -/
  polled : ∀ g group number, r.groups.get? g = some group → group.descriptor = .fd number →
    ¬(r.interestOf g).isEmpty = true →
    ∃ k : Nat, r.pollSet[k]? = some (.ofInterest number (r.interestOf g)) ∧
      (reported[k]?.getD .none).Means (r.readiness reported group.descriptor)
  /-- The ready queue grows by the notifications for which there is a reason, group after group. -/
  ready : r'.ready = r.ready ++ r.active.flatMap fun g => (r.pendingOf g).filter (r.isMet reported now)
  /-- They keep all they had, and the reason is noted down. -/
  selected : ∀ g h n, h ∈ r.pendingOf g → r.notifications.get? h = some n →
    r.isMet reported now h = true →
    r'.notifications.get? h = some { n with triggered := r.maskOf reported now n, place := .ready }
  /-- The others that waited stay as they are. -/
  kept : ∀ g h, h ∈ r.pendingOf g → r.isMet reported now h = false →
    r'.notifications.get? h = r.notifications.get? h
  /-- So do those that were selected before. -/
  earlier : ∀ h ∈ r.ready, r'.notifications.get? h = r.notifications.get? h
  /-- Those that stay do so in their group, in order. -/
  pendingOf : ∀ g, r'.pendingOf g = (r.pendingOf g).filter fun h => !r.isMet reported now h
  /-- The groups that are left with notifications stay, in order. -/
  active : r'.active = r.active.filter fun g => (r.pendingOf g).any fun h => !r.isMet reported now h
  /-- They keep their descriptors, and the others are retired. -/
  groups : ∀ g ∈ r.active, (r'.groups.get? g).map Group.descriptor =
    if g ∈ r'.active then (r.groups.get? g).map Group.descriptor else none

theorem selects_eq_isMet {r : Reactor α} (hr : r.WellFormed) (reported : List Conditions)
    (now : Instant) {g h : Handle} (hh : h ∈ r.pendingOf g) :
    r.selects reported now h = r.isMet reported now h := by
  obtain ⟨n, hn, hp⟩ := hr.mem_pendingOf.mp hh
  simp [selects, isMet, isSelected, hn, hp]

/-- What a selection does is what a tick does. -/
theorem ticked_of_selects {r r' : Reactor α} (hr : r.WellFormed) {reported : List Conditions}
    {now : Instant} (s : r.Selects reported now r') : r.Ticked reported now r' where
  nodup := pollSet_numbers_nodup hr
  unpolled _ _ hg := readiness_of_not_polled hr reported hg
  polled g group number hg hd hi := by
    obtain ⟨k, hk, -, hread⟩ := readiness_of_polled hr reported hg hd hi
    exact ⟨k, hk, hread ▸ Conditions.means_fired _⟩
  ready := by
    rw [s.ready]
    refine congrArg _ (List.flatMap_congr fun g _ => List.filter_congr fun h hh => ?_)
    exact selects_eq_isMet hr reported now hh
  selected g h n hh hn hmet := by
    rw [← selects_eq_isMet hr reported now hh, selects_of_get? hn] at hmet
    rw [s.notifications.get?, hn, Option.map_some, mark, if_pos hmet]
  kept g h hh hmet := by
    obtain ⟨n, hn, -⟩ := hr.mem_pendingOf.mp hh
    rw [← selects_eq_isMet hr reported now hh, selects_of_get? hn] at hmet
    rw [s.notifications.get?, hn, Option.map_some, mark, if_neg (by simp [hmet])]
  earlier h hh := by
    obtain ⟨n, hn, hp⟩ := (hr.mem_ready h).mp hh
    rw [s.notifications.get?, hn, Option.map_some, mark, if_neg (by simp [isSelected, hp])]
  pendingOf g := by
    rw [s.thins.pendingOf_eq]
    exact List.filter_congr fun h hh => by rw [selects_eq_isMet hr reported now hh]
  active := by
    rw [s.thins.active]
    refine List.filter_congr fun g _ => ?_
    rw [Bool.eq_iff_iff, List.any_eq_true, List.any_eq_true]
    exact exists_congr fun h => and_congr_right fun hh => by rw [selects_eq_isMet hr reported now hh]
  groups g hg := by
    obtain ⟨group, hgroup⟩ := hr.exists_group hg
    have hmem : g ∈ r'.active ↔ (group.pending.any fun h => !r.selects reported now h) = true := by
      rw [s.thins.active, List.mem_filter, pendingOf_of_get? hgroup, and_iff_right hg]
    rw [s.thins.get?, hgroup, Option.bind_some]
    by_cases ha : (group.pending.any fun h => !r.selects reported now h) = true
    · rw [Group.thin_of_any ha, if_pos (hmem.mpr ha)]
      rfl
    · rw [Group.thin_of_not_any ha, if_neg (mt hmem.mp ha)]
      rfl

end Reactor

namespace Machine

/-- **A tick selects, in order, exactly the notifications for which it has a reason.** -/
theorem tick_selects_in_order {y : System σ α} (hy : y.reactor.Initial) (host : Host σ α)
    (p : Program σ α) {k : Nat} {reported : List Conditions} {now : Instant}
    (ho : (start y p).occurrenceAt host k = some (.selected reported now)) :
    ((start y p).reactorAt host k).Ticked reported now ((start y p).reactorAt host (k + 1)) := by
  have hwf : (start y p).system.reactor.WellFormed := Reactor.wellFormed_of_initial hy
  have he := effect_at host hwf k
  rw [ho] at he
  cases he with
  | selected selects => exact Reactor.ticked_of_selects (wellFormed_reactorAt host hwf k) selects

theorem tick_selects_readable :
    (start .unused .readOnce).occurrenceAt .steady 1 = some (.selected [.input] .origin) ∧
      ((start .unused .readOnce).reactorAt .steady 1).Ticked [.input] .origin
        ((start .unused .readOnce).reactorAt .steady 2) :=
  ⟨rfl, tick_selects_in_order (y := .unused) (.empty _) .steady .readOnce rfl⟩

end Machine

end EventLoop
