import EventLoop.Proofs.Reactor.Readiness
import EventLoop.Proofs.Time.Nanos
import Mathlib.Tactic.IntervalCases

/-!
# What a reactor waits for

Before a wait the notifications of all groups are folded into a poll set and the earliest deadline.

* `forall₂_pollSet` — the poll set has one entry for each group that anything can come about for, and the
  entry asks for all that the members wait for.
* `isEarliest_earliest` — the deadline is the earliest of all deadlines of the members.
* `bounded_waitBound` — so the wait ends when the first of them is due, or after the floor.
-/

namespace EventLoop

variable {α : Type}

/-! ## Masks -/

namespace Events

/-- There are eight masks of what a wait can be asked for. -/
theorem bits_lt_eight {e : Events} (he : e &&& .waitable = e) : e.bits.toNat < 8 := by
  have hbits : e.bits &&& 7 = e.bits := congrArg Events.bits he
  rw [← hbits, UInt32.toNat_and]
  exact Nat.lt_of_le_of_lt Nat.and_le_right (by decide)

theorem eq_of_waitable {e : Events} (he : e &&& .waitable = e) :
    e ∈ [⟨0⟩, ⟨1⟩, ⟨2⟩, ⟨3⟩, ⟨4⟩, ⟨5⟩, ⟨6⟩, (⟨7⟩ : Events)] := by
  have hlt := bits_lt_eight he
  obtain ⟨bits⟩ := e
  have hofNat : bits = UInt32.ofNat bits.toNat := UInt32.ofNat_toNat.symm
  generalize bits.toNat = n at hlt hofNat
  subst hofNat
  interval_cases n <;> simp

theorem union_waitable {a b : Events} (ha : a &&& .waitable = a) (hb : b &&& .waitable = b) :
    (a ||| b) &&& .waitable = a ||| b := by
  have h1 := eq_of_waitable ha
  have h2 := eq_of_waitable hb
  simp only [List.mem_cons, List.not_mem_nil, or_false] at h1 h2
  rcases h1 with rfl | rfl | rfl | rfl | rfl | rfl | rfl | rfl <;>
    rcases h2 with rfl | rfl | rfl | rfl | rfl | rfl | rfl | rfl <;> rfl

end Events

namespace Conditions

/-- The conditions ask for exactly these events. -/
structure AsksFor (c : Conditions) (e : Events) : Prop where
  input : c.meets input = e.contains .read
  output : c.meets output = e.contains .write
  urgent : c.meets urgent = e.contains .except
  /-- They ask for nothing else. -/
  only : c &&& (.input ||| .output ||| .urgent) = c

theorem asksFor_ofEvents (e : Events) : (ofEvents e).AsksFor e := by
  unfold ofEvents
  cases hr : e.contains .read <;> cases hw : e.contains .write <;> cases he : e.contains .except <;>
    exact ⟨by rw [hr]; rfl, by rw [hw]; rfl, by rw [he]; rfl, rfl⟩

/-- What was asked for can be read back. -/
theorem toEvents_ofEvents {e : Events} (he : e &&& .waitable = e) : (ofEvents e).toEvents = e := by
  have hmem := Events.eq_of_waitable he
  simp only [List.mem_cons, List.not_mem_nil, or_false] at hmem
  rcases hmem with rfl | rfl | rfl | rfl | rfl | rfl | rfl | rfl <;> rfl

end Conditions

/-! ## The earliest of some instants -/

/-- The earliest of some instants, none if there are none. -/
structure IsEarliest (l : List Instant) (first : Option Instant) : Prop where
  none_iff : first = none ↔ l = []
  mem : ∀ t, first = some t → t ∈ l
  le : ∀ t, first = some t → ∀ d ∈ l, t.toNanos ≤ d.toNanos

namespace IsEarliest

theorem nil : IsEarliest [] none := ⟨by simp, nofun, nofun⟩

theorem of_mem {l : List Instant} {t : Instant} (ht : t ∈ l)
    (hle : ∀ d ∈ l, t.toNanos ≤ d.toNanos) : IsEarliest l (some t) where
  none_iff := by
    constructor
    · nofun
    · rintro rfl
      cases ht
  mem u hu := by
    cases hu
    exact ht
  le u hu := by
    cases hu
    exact hle

theorem toList (due : Option Instant) : IsEarliest due.toList due := by
  cases due with
  | none => exact nil
  | some t =>
    refine of_mem (by simp) fun d hd => ?_
    rw [Option.toList_some, List.mem_singleton] at hd
    rw [hd]

theorem sooner {a b : Option Instant} {l m : List Instant} (ha : IsEarliest l a)
    (hb : IsEarliest m b) : IsEarliest (l ++ m) (Reactor.sooner a b) := by
  cases a with
  | none =>
    rw [ha.none_iff.mp rfl, List.nil_append]
    exact hb
  | some t =>
    cases b with
    | none =>
      rw [hb.none_iff.mp rfl, List.append_nil]
      exact ha
    | some u =>
      have htl := ha.le t rfl
      have hum := hb.le u rfl
      show IsEarliest (l ++ m) (some (Instant.min t u))
      unfold Instant.min
      -- the smaller of the two is at most every member of either list
      split
      · next hle =>
        rw [Instant.le_iff_toNanos] at hle
        refine of_mem (List.mem_append_left m (ha.mem t rfl)) fun d hd => ?_
        rcases List.mem_append.mp hd with hd | hd
        · exact htl d hd
        · exact Nat.le_trans hle (hum d hd)
      · next hle =>
        rw [Instant.le_iff_toNanos] at hle
        refine of_mem (List.mem_append_right l (hb.mem u rfl)) fun d hd => ?_
        rcases List.mem_append.mp hd with hd | hd
        · exact Nat.le_trans (by omega) (htl d hd)
        · exact hum d hd

/-- A fold that takes the sooner of what it has and the next finds the earliest of all. -/
theorem foldl {β : Type} {due : β → Option Instant} {instants : β → List Instant}
    (h : ∀ x, IsEarliest (instants x) (due x)) :
    ∀ (l : List β) {seen : List Instant} {first : Option Instant}, IsEarliest seen first →
      IsEarliest (seen ++ l.flatMap instants)
        (l.foldl (fun first x => Reactor.sooner first (due x)) first)
  | [], seen, first, hs => by simpa using hs
  | x :: rest, seen, first, hs => by
    rw [List.flatMap_cons, ← List.append_assoc]
    exact foldl h rest (hs.sooner (h x))

end IsEarliest

namespace Reactor

/-- The instants at which a notification of any group is due. -/
def deadlines (r : Reactor α) : List Instant :=
  r.active.flatMap fun g => (r.members g).filterMap Notification.due

theorem mem_deadlines {r : Reactor α} {t : Instant} :
    t ∈ r.deadlines ↔ ∃ g ∈ r.active, ∃ n ∈ r.members g, n.due = some t := by
  simp [deadlines, List.mem_flatMap, List.mem_filterMap]

theorem isEarliest_earliest (r : Reactor α) : IsEarliest r.deadlines r.earliest := by
  have hgroup : ∀ g, IsEarliest ((r.members g).filterMap Notification.due) (r.dueOf g) := by
    intro g
    rw [List.filterMap_eq_flatMap_toList]
    exact @IsEarliest.foldl _ Notification.due _ (fun n => IsEarliest.toList n.due) (r.members g) _ _
      IsEarliest.nil
  exact IsEarliest.foldl hgroup r.active IsEarliest.nil

/-! ## The poll set -/

theorem mem_members {r : Reactor α} (hr : r.WellFormed) {g : Handle} {n : Notification α} :
    n ∈ r.members g ↔ ∃ h, r.notifications.get? h = some n ∧ n.place = .group g := by
  have hmem : n ∈ r.members g ↔ ∃ h ∈ r.pendingOf g, r.notifications.get? h = some n := by
    unfold members
    cases hg : r.groups.get? g with
    | none => simp [pendingOf_of_none hg]
    | some group => simp [pendingOf_of_get? hg, List.mem_filterMap]
  rw [hmem]
  constructor
  · rintro ⟨h, hh, hn⟩
    obtain ⟨m, hm, hp⟩ := hr.mem_pendingOf.mp hh
    rw [hn] at hm
    cases hm
    exact ⟨h, hn, hp⟩
  · rintro ⟨h, hn, hp⟩
    exact ⟨h, hr.mem_pendingOf.mpr ⟨n, hn, hp⟩, hn⟩

theorem foldl_interest_waitable (l : List (Notification α)) (h : ∀ n ∈ l, n.interest &&& .waitable = n.interest)
    (e : Events) (he : e &&& .waitable = e) :
    l.foldl (fun e n => e ||| n.interest) e &&& .waitable = l.foldl (fun e n => e ||| n.interest) e := by
  induction l generalizing e with
  | nil => exact he
  | cons n rest ih =>
    rw [List.foldl_cons]
    exact ih (fun m hm => h m (List.mem_cons_of_mem _ hm)) _
      (Events.union_waitable he (h n List.mem_cons_self))

theorem interestOf_waitable {r : Reactor α} (hr : r.WellFormed) (g : Handle) :
    r.interestOf g &&& .waitable = r.interestOf g := by
  refine foldl_interest_waitable (r.members g) (fun n hn => ?_) .none rfl
  obtain ⟨h, hget, -⟩ := (mem_members hr).mp hn
  exact (hr.sound h n hget).interest

/-- Does the wait have to ask about a group: has it a file, and does a member wait for anything? -/
def isPolled (r : Reactor α) (g : Handle) : Bool :=
  (r.descriptorOf g).number?.isSome && !(r.interestOf g).isEmpty

/-- An entry asks about a group: for its file, and for all that its members wait for. -/
structure EntryFor (r : Reactor α) (g : Handle) (e : PollEntry) : Prop where
  number : r.descriptorOf g = .fd e.number
  asked : e.asked.AsksFor (r.interestOf g)
  interest : e.interest = r.interestOf g

theorem isPolled_iff {r : Reactor α} (hr : r.WellFormed) {g : Handle} (hg : g ∈ r.active) :
    r.isPolled g = true ↔ ∃ e, r.entryOf g = some e := by
  obtain ⟨group, hgroup⟩ := hr.exists_group hg
  unfold isPolled
  rw [descriptorOf_of_get? hgroup]
  constructor
  · intro h
    rw [Bool.and_eq_true, Option.isSome_iff_exists, Bool.not_eq_true'] at h
    obtain ⟨⟨number, hn⟩, hi⟩ := h
    refine ⟨_, entryOf_eq_some.mpr ⟨group, number, hgroup, ?_, by simp [hi], rfl⟩⟩
    cases hd : group.descriptor with
    | timer => rw [hd] at hn; cases hn
    | fd k => rw [hd] at hn; cases hn; rfl
  · rintro ⟨e, he⟩
    obtain ⟨other, number, ho, hd, hi, -⟩ := entryOf_eq_some.mp he
    rw [hgroup] at ho
    cases ho
    simpa [hd, Descriptor.number?] using hi

theorem entryFor_of_entryOf {r : Reactor α} (hr : r.WellFormed) {g : Handle} {e : PollEntry}
    (he : r.entryOf g = some e) : r.EntryFor g e := by
  obtain ⟨group, number, hg, hd, -, rfl⟩ := entryOf_eq_some.mp he
  refine ⟨by rw [descriptorOf_of_get? hg, hd]; rfl, Conditions.asksFor_ofEvents _, ?_⟩
  exact Conditions.toEvents_ofEvents (interestOf_waitable hr g)

theorem forall₂_entries {r : Reactor α} (hr : r.WellFormed) :
    ∀ l : List Handle, l ⊆ r.active →
      List.Forall₂ r.EntryFor (l.filter r.isPolled) (l.filterMap r.entryOf)
  | [], _ => List.Forall₂.nil
  | g :: rest, hsub => by
    have ih := forall₂_entries hr rest fun k hk => hsub (List.mem_cons_of_mem _ hk)
    have hiff := isPolled_iff hr (hsub List.mem_cons_self)
    cases he : r.entryOf g with
    | none =>
      rw [List.filterMap_cons_none he, List.filter_cons_of_neg]
      · exact ih
      · rw [hiff, he]
        nofun
    | some e =>
      rw [List.filterMap_cons_some he, List.filter_cons_of_pos (hiff.mpr ⟨e, he⟩)]
      exact List.Forall₂.cons (entryFor_of_entryOf hr he) ih

/-- **The poll set has one entry for each group that has a file and an interest, in order.** -/
theorem forall₂_pollSet {r : Reactor α} (hr : r.WellFormed) :
    List.Forall₂ r.EntryFor (r.active.filter r.isPolled) r.pollSet :=
  forall₂_entries hr r.active (List.Subset.refl _)

/-! ## How long a wait may last -/

/-- A wait is bounded by the deadlines and the floor, given the instant at which it begins. -/
structure Bounded (r : Reactor α) (entries : List PollEntry) (before : Option Instant)
    (bound : Option Span) : Prop where
  /-- It lasts as long as it takes if there is something to wait for and no deadline. -/
  none_iff : bound = none ↔ entries ≠ [] ∧ r.deadlines = []
  /-- With nothing to wait for and no deadline it lasts for the floor. -/
  idle : entries = [] → r.deadlines = [] → bound = some r.floor
  /-- With a deadline it lasts until the earliest one, but not less than the floor. -/
  deadline : r.deadlines ≠ [] → ∃ now first span, before = some now ∧ bound = some span ∧
    first ∈ r.deadlines ∧ (∀ d ∈ r.deadlines, first.toNanos ≤ d.toNanos) ∧
    span.toNanos = max (first.toNanos - now.toNanos) r.floor.toNanos
  floor_le : ∀ span, bound = some span → r.floor.toNanos ≤ span.toNanos
  /-- It lasts longer than the floor only if no deadline comes earlier. -/
  far : ∀ span, bound = some span → r.floor.toNanos < span.toNanos →
    ∃ now, before = some now ∧ ∀ d ∈ r.deadlines, now.toNanos + span.toNanos ≤ d.toNanos

theorem zero_max (d : Span) : Span.zero.max d = d := by
  rw [← Span.toNanos_inj, Span.toNanos_max, Span.toNanos_zero]
  exact Nat.max_eq_right (Nat.zero_le _)

theorem waitBound_none (hasInterest : Bool) (floor : Span) :
    waitBound none hasInterest floor = if hasInterest then none else some floor := by
  unfold waitBound
  rw [zero_max]

theorem toNanos_waitBound (left : Span) (hasInterest : Bool) (floor : Span) :
    ∃ span, waitBound (some left) hasInterest floor = some span ∧
      span.toNanos = max left.toNanos floor.toNanos :=
  ⟨left.max floor, rfl, Span.toNanos_max left floor⟩

/-- **The wait of a tick is bounded by the deadlines and the floor.** The clock is read before it exactly
if there is a deadline. -/
theorem bounded_waitBound (r : Reactor α) (entries : List PollEntry) {before : Option Instant}
    (hbefore : before.isSome = r.earliest.isSome) :
    r.Bounded entries before
      (waitBound (r.earliest.bind fun due => before.map due.since) (!entries.isEmpty) r.floor) := by
  have hearliest := r.isEarliest_earliest
  cases hfirst : r.earliest with
  | none =>
    rw [hfirst] at hearliest
    have hnil : r.deadlines = [] := hearliest.none_iff.mp rfl
    rw [Option.bind_none, waitBound_none]
    cases entries with
    | nil =>
      refine ⟨by simp, fun _ _ => rfl, fun h => absurd hnil h, ?_, ?_⟩
      · rintro span hs
        cases hs
        exact Nat.le_refl _
      · rintro span hs hlt
        cases hs
        exact absurd hlt (Nat.lt_irrefl _)
    | cons e rest => exact ⟨by simp [hnil], nofun, fun h => absurd hnil h, nofun, nofun⟩
  | some first =>
    rw [hfirst] at hearliest hbefore
    obtain ⟨now, rfl⟩ := Option.isSome_iff_exists.mp (hbefore.trans rfl)
    have hne : r.deadlines ≠ [] := fun h => nomatch hearliest.none_iff.mpr h
    have hle := hearliest.le first rfl
    rw [Option.bind_some, Option.map_some]
    obtain ⟨span, hspan, hnanos⟩ := toNanos_waitBound (first.since now) (!entries.isEmpty) r.floor
    rw [Instant.toNanos_since] at hnanos
    rw [hspan]
    refine ⟨by simp [hne], fun _ h => absurd h hne, fun _ => ?_, ?_, ?_⟩
    · exact ⟨now, first, span, rfl, rfl, hearliest.mem first rfl, hle, hnanos⟩
    · rintro _ hs
      cases hs
      rw [hnanos]
      exact Nat.le_max_right _ _
    · rintro _ hs hlt
      cases hs
      refine ⟨now, rfl, fun d hd => ?_⟩
      have := hle d hd
      omega

end Reactor

end EventLoop
