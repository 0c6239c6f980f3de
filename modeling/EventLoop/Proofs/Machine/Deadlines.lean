import EventLoop.Proofs.Machine.Fifo
import EventLoop.Proofs.Machine.Wait

/-!
# The deadlines that a wait heeds

A notification is still to be dispatched while it waits in a group, and also while it stands in the ready queue. A tick
looks for deadlines in the groups, and not in the queue. Where no callback is running that comes to the same, for then
nothing stands in the queue. But a callback may run a tick of its own while others stand there, and this tick may sleep
on past their deadlines.

* `Reactor.Bounded.endsBy_iff` — the instants by which a wait ends.
* `Reactor.heedsPending_iff` — it heeds every deadline exactly if it happens to heed those in the queue.
* `heeds_deadlines_of_groups` — what the wait of every tick of every run heeds.
* `sleeps_on_overdue` — a wait without end while a notification is overdue.
-/

namespace EventLoop

variable {σ α : Type}

/-- The nanoseconds that were left until an instant when the clock was read; none if it was not read. -/
def WaitCall.leftUntil (call : WaitCall σ) (t : Instant) : Nat :=
  call.before.elim 0 fun now => t.toNanos - now.toNanos

namespace Reactor

variable {r : Reactor α} {call : WaitCall σ} {h : Handle} {n : Notification α} {t : Instant}

/-- A wait lasts no longer than until an instant, or than the floor if that is longer. -/
def EndsBy (r : Reactor α) (call : WaitCall σ) (t : Instant) : Prop :=
  ∃ span, call.bound = some span ∧ span.toNanos ≤ max (call.leftUntil t) r.floor.toNanos

/-- A wait ends by the deadline of every notification that is still to be dispatched. -/
def HeedsPending (r : Reactor α) (call : WaitCall σ) : Prop :=
  ∀ h n t, r.notifications.get? h = some n → n.due = some t → r.EndsBy call t

/-- **A wait ends by the earliest deadline of the groups and by what comes later**, and if there is no deadline and
nothing to wait for, by any instant. -/
theorem Bounded.endsBy_iff (hb : r.Bounded call.entries call.before call.bound) (t : Instant) :
    r.EndsBy call t ↔ call.entries = [] ∧ r.deadlines = [] ∨
      ∃ d ∈ r.deadlines, call.leftUntil d ≤ max (call.leftUntil t) r.floor.toNanos := by
  by_cases hnone : r.deadlines = []
  · by_cases hidle : call.entries = []
    · exact iff_of_true ⟨r.floor, hb.idle hidle hnone, Nat.le_max_right _ _⟩ (Or.inl ⟨hidle, hnone⟩)
    · -- the wait lasts as long as it takes
      have hbound : call.bound = none := hb.none_iff.mpr ⟨hidle, hnone⟩
      refine iff_of_false ?_ ?_
      · rintro ⟨span, hspan, -⟩
        rw [hbound] at hspan
        cases hspan
      · rintro (⟨hentries, -⟩ | ⟨d, hd, -⟩)
        · exact hidle hentries
        · rw [hnone] at hd
          cases hd
  · obtain ⟨now, first, span, hbefore, hbound, hmem, hfirst, hspan⟩ := hb.deadline hnone
    have hleft : ∀ u, call.leftUntil u = u.toNanos - now.toNanos := by
      intro u
      rw [WaitCall.leftUntil, hbefore, Option.elim_some]
    constructor
    · rintro ⟨s, hs, hle⟩
      rw [hbound] at hs
      cases hs
      rw [hspan, ← hleft] at hle
      exact Or.inr ⟨first, hmem, Nat.le_trans (Nat.le_max_left _ _) hle⟩
    · rintro (⟨-, hdeadlines⟩ | ⟨d, hd, hle⟩)
      · exact absurd hdeadlines hnone
      · have hsooner := hfirst d hd
        rw [hleft] at hle
        refine ⟨span, hbound, ?_⟩
        rw [hspan]
        omega

theorem Bounded.endsBy_of_mem (hb : r.Bounded call.entries call.before call.bound) (ht : t ∈ r.deadlines) :
    r.EndsBy call t :=
  (hb.endsBy_iff t).mpr (Or.inr ⟨t, ht, Nat.le_max_left _ _⟩)

/-- What is still to be dispatched stands in the ready queue or is a member of a group. -/
theorem WellFormed.queued_or_member (hr : r.WellFormed) (hn : r.notifications.get? h = some n) :
    h ∈ r.ready ∨ ∃ g ∈ r.active, n ∈ r.members g := by
  cases hp : n.place with
  | spare => exact absurd hp (hr.sound h n hn).place
  | ready => exact Or.inl ((hr.mem_ready h).mpr ⟨n, hn, hp⟩)
  | group g =>
    obtain ⟨group, hg, -⟩ := hr.group_of_place h n g hn hp
    exact Or.inr ⟨g, hr.mem_active_of_get? hg, (mem_members hr).mpr ⟨h, hn, hp⟩⟩

/-- **A wait heeds all deadlines exactly if it heeds those of the ready queue.** -/
theorem heedsPending_iff (hr : r.WellFormed) (hb : r.Bounded call.entries call.before call.bound) :
    r.HeedsPending call ↔
      ∀ h ∈ r.ready, ∀ n t, r.notifications.get? h = some n → n.due = some t → r.EndsBy call t := by
  constructor
  · exact fun hall h _ n t hn ht => hall h n t hn ht
  · intro hqueue h n t hn ht
    rcases hr.queued_or_member hn with hmem | ⟨g, hg, hmem⟩
    · exact hqueue h hmem n t hn ht
    · exact hb.endsBy_of_mem (mem_deadlines.mpr ⟨g, hg, n, hmem, ht⟩)

/-- What a wait heeds. -/
structure Heeds (r : Reactor α) (call : WaitCall σ) : Prop where
  /-- It ends by the deadline of every member of a group. -/
  members : ∀ g ∈ r.active, ∀ n ∈ r.members g, ∀ t, n.due = some t → r.EndsBy call t
  /-- It ends by another instant only if one of these is early enough, or if it is a mere look. -/
  endsBy_iff : ∀ t, r.EndsBy call t ↔ call.entries = [] ∧ r.deadlines = [] ∨
    ∃ d ∈ r.deadlines, call.leftUntil d ≤ max (call.leftUntil t) r.floor.toNanos

theorem Bounded.heeds (hb : r.Bounded call.entries call.before call.bound) : r.Heeds call where
  members g hg n hn _ ht := hb.endsBy_of_mem (mem_deadlines.mpr ⟨g, hg, n, hn, ht⟩)
  endsBy_iff := hb.endsBy_iff

end Reactor

/-! ## The waits of a run -/

/-- To be notified at once, without a file to wait for. -/
def Request.overdue : Request Unit := { Request.toWake with timeout := .after .zero }

/-- Registers twice to be notified at once and makes another request, and then runs one tick. -/
def Program.overdueTwice (request : Request Unit) : Program Unit Unit :=
  .register .overdue fun _ => .register .overdue fun _ => .register request fun _ => .tick fun _ => .done

/-- Surroundings in which no file gets ready, and every callback runs a tick. -/
def Host.dozing : Host Unit Unit :=
  { Host.nesting with wait := fun entries _ s => (.ok (entries.map fun _ => .none), s) }

/-- The wait of a tick for five milliseconds. -/
def WaitCall.untilWake : WaitCall Unit :=
  { entries := [], bound := some (.ofMicros 5000), before := some .origin, outside := () }

/-- The wait of a tick for a file, as long as it takes. -/
def WaitCall.untilRead : WaitCall Unit :=
  { entries := [.ofInterest 3 .read], bound := none, before := none, outside := () }

namespace Machine

/-- **The wait of every tick heeds the deadlines of the groups, and any other only by chance.** When the run began with
a new reactor, the others are those of the ready queue, and where no tick is in progress there are none. -/
theorem heeds_deadlines_of_groups {y : System σ α} (host : Host σ α) (p : Program σ α) {k : Nat}
    {call : WaitCall σ} (hcall : (start y p).waitCallAt host k = some call) :
    ((start y p).reactorAt host k).Heeds call ∧
      (y.reactor.Initial →
        (((start y p).reactorAt host k).HeedsPending call ↔
          ∀ h ∈ ((start y p).reactorAt host k).ready, ∀ n t,
            ((start y p).reactorAt host k).notifications.get? h = some n → n.due = some t →
              ((start y p).reactorAt host k).EndsBy call t) ∧
        (((start y p).run host k).inTick = false → ((start y p).reactorAt host k).HeedsPending call)) := by
  have hb : ((start y p).reactorAt host k).Bounded call.entries call.before call.bound := by
    unfold waitCallAt at hcall
    split at hcall
    · exact Host.bounded_of_waitCall hcall
    · cases hcall
  refine ⟨hb.heeds, fun hy => ?_⟩
  have hwf : (start y p).system.reactor.WellFormed := Reactor.wellFormed_of_initial hy
  have hiff := Reactor.heedsPending_iff (wellFormed_reactorAt host hwf k) hb
  refine ⟨hiff, fun hout => hiff.mpr fun h hh => ?_⟩
  rw [ready_eq_nil_of_not_inTick hwf (Reactor.ready_of_initial hy) k hout] at hh
  cases hh

/-- The tick of the first callback heeds the deadline of what waits, while the second stands in the queue. -/
theorem heeds_wake_in_callback :
    System.unused.reactor.Initial ∧
      (start .unused (.overdueTwice .toWake)).waitCallAt .dozing 5 = some .untilWake ∧
      ((start .unused (.overdueTwice .toWake)).reactorAt .dozing 5).ready = [⟨1, 0⟩] ∧
      ((start .unused (.overdueTwice .toWake)).reactorAt .dozing 5).Heeds .untilWake ∧
      ((start .unused (.overdueTwice .toRead)).run .dozing 3).inTick = false ∧
      ∃ call, (start .unused (.overdueTwice .toRead)).waitCallAt .dozing 3 = some call ∧
        call.bound = some defaultWaitFloor ∧
        ((start .unused (.overdueTwice .toRead)).reactorAt .dozing 3).HeedsPending call :=
  ⟨.empty _, rfl, rfl, (heeds_deadlines_of_groups .dozing (.overdueTwice .toWake) rfl).1, rfl, _, rfl, rfl,
    ((heeds_deadlines_of_groups (y := .unused) .dozing (.overdueTwice .toRead) rfl).2 (.empty _)).2 rfl⟩

/-- The tick of the first callback waits for a file as long as it takes, while the second is overdue and stands in the
queue. -/
theorem sleeps_on_overdue :
    (start .unused (.overdueTwice .toRead)).waitCallAt .dozing 5 = some .untilRead ∧
      ((start .unused (.overdueTwice .toRead)).reactorAt .dozing 5).ready = [⟨1, 0⟩] ∧
      ((start .unused (.overdueTwice .toRead)).reactorAt .dozing 5).isPending ⟨1, 0⟩ = true ∧
      ¬((start .unused (.overdueTwice .toRead)).reactorAt .dozing 5).HeedsPending .untilRead := by
  refine ⟨rfl, rfl, rfl, fun hall => ?_⟩
  obtain ⟨span, hspan, -⟩ := hall ⟨1, 0⟩ _ .origin rfl rfl
  cases hspan

end Machine

end EventLoop
