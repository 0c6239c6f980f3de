import EventLoop.Proofs.Machine.Delivery
import EventLoop.Proofs.Reactor.Lookup

/-!
# Registrations that stand

A registration stands from the step that answered it until its notification is withdrawn or selected. What waits in
the groups are the registrations that stand, and each group holds them in the order in which they were made.

* `Machine.Stands` — a registration stands.
* `Stands.armed`, `exists_stands` — what waits in a group is a registration that stands, armed as it was requested.
* `pendingOf_in_order` — the groups keep the order of the registrations.
* `mem_waitingWith_iff`, `waitingWith_in_order` — the same for what waits on a descriptor with a callback.
-/

namespace EventLoop

variable {σ α : Type}

/-! ## One step -/

/-- **A step leaves out members of a group, and puts at its end what it registers.** -/
theorem Reactor.Effect.pendingOf_sublist {o : Option (Occurrence α)} {r r' : Reactor α} (he : Effect o r r')
    (g : Handle) : (r'.pendingOf g).Sublist (r.pendingOf g ++ (o.bind Occurrence.given?).toList) := by
  have hsame : (∀ k, r'.groups.get? k = r.groups.get? k) → r'.pendingOf g = r.pendingOf g := by
    intro hget
    rw [pendingOf, hget, pendingOf]
  cases he with
  | none rests => exact hsame rests.get? ▸ List.sublist_append_left _ _
  | registered arms =>
    rw [arms.pendingOf_eq]
    split
    · next hg =>
      rw [hg]
      exact List.Sublist.refl _
    · exact List.sublist_append_left _ _
  | cancelled withdraws =>
    rw [withdraws.thins.pendingOf_eq]
    exact List.filter_sublist.trans (List.sublist_append_left _ _)
  | selected selects =>
    rw [selects.thins.pendingOf_eq]
    exact List.filter_sublist.trans (List.sublist_append_left _ _)
  | invoked takes =>
    have hget : ∀ k, _ = _ := fun k => congrArg (Pool.get? · k) takes.groups
    exact hsame hget ▸ List.sublist_append_left _ _

namespace Machine

variable {host : Host σ α} {m : Machine σ α} {h : Handle} {request : Request α} {due : Option Instant} {j n : Nat}

/-! ## Whole runs -/

/-- The last of a number of steps that handed a handle out. -/
structure LastGiven (host : Host σ α) (m : Machine σ α) (n j : Nat) (h : Handle) : Prop where
  earlier : j < n
  given : m.givenAt host j = some h
  last : ∀ k, j < k → k < n → m.givenAt host k ≠ some h

theorem LastGiven.unique {i : Nat} (l : m.LastGiven host n i h) (l' : m.LastGiven host n j h) : i = j := by
  rcases Nat.lt_trichotomy i j with hij | rfl | hji
  · exact absurd l'.given (l.last j hij l'.earlier)
  · rfl
  · exact absurd l.given (l'.last i hji l.earlier)

theorem LastGiven.eq_of_given (l : m.LastGiven host (n + 1) j h) (hn : m.givenAt host n = some h) : j = n := by
  by_contra hne
  exact l.last n (by have := l.earlier; omega) (Nat.lt_succ_self n) hn

theorem LastGiven.of_succ (l : m.LastGiven host (n + 1) j h) (hn : m.givenAt host n ≠ some h) :
    m.LastGiven host n j h where
  earlier := by
    refine Nat.lt_of_le_of_ne (Nat.le_of_lt_succ l.earlier) ?_
    rintro rfl
    exact hn l.given
  given := l.given
  last k hjk hkn := l.last k hjk (Nat.lt_succ_of_lt hkn)

/-- Of two handles, the first was handed out before the second, each for the last time. -/
def GivenBefore (host : Host σ α) (m : Machine σ α) (n : Nat) (a b : Handle) : Prop :=
  ∀ i j, m.LastGiven host n i a → m.LastGiven host n j b → i < j

theorem givenAt_ne_of_mem_pendingOf (hm : m.system.reactor.Initial) {g : Handle}
    (hh : h ∈ (m.reactorAt host n).pendingOf g) : m.givenAt host n ≠ some h := by
  intro hgiven
  obtain ⟨v, hv, -⟩ := (wellFormed_reactorAt host (Reactor.wellFormed_of_initial hm) n).mem_pendingOf.mp hh
  have habsent := ((course_of_run hm).absent n h hgiven).1
  rw [Pool.contains, hv] at habsent
  cases habsent

/-- **A group holds its notifications in the order in which they were registered.** The induction is on the number
of steps: a registration goes behind all that the group holds, and what leaves a group disturbs no order. -/
theorem pendingOf_in_order (hm : m.system.reactor.Initial) (n : Nat) (g : Handle) :
    ((m.reactorAt host n).pendingOf g).Pairwise (m.GivenBefore host n) := by
  induction n with
  | zero =>
    have hempty : (m.reactorAt host 0).pendingOf g = [] := by
      refine List.eq_nil_iff_forall_not_mem.mpr fun h hh => ?_
      obtain ⟨v, hv, -⟩ := (Reactor.wellFormed_of_initial hm).mem_pendingOf.mp hh
      have hnone : m.system.reactor.isPending h = false := Reactor.isPending_of_initial hm h
      rw [Reactor.isPending, Pool.contains_eq_true.mpr ⟨v, hv⟩] at hnone
      cases hnone
    rw [hempty]
    exact List.Pairwise.nil
  | succ n ih =>
    have he := effect_at host (Reactor.wellFormed_of_initial hm) n
    refine List.Pairwise.sublist (he.pendingOf_sublist g) (List.pairwise_append.mpr ⟨?_, ?_, ?_⟩)
    · refine ih.imp_of_mem fun {a b} ha hb hbefore i j hi hj => ?_
      have ha' := givenAt_ne_of_mem_pendingOf hm ha
      have hb' := givenAt_ne_of_mem_pendingOf hm hb
      exact hbefore i j (hi.of_succ ha') (hj.of_succ hb')
    · cases (m.occurrenceAt host n).bind Occurrence.given? with
      | none => exact List.Pairwise.nil
      | some h => exact List.pairwise_singleton _ h
    · intro a ha b hb i j hi hj
      have hgiven : m.givenAt host n = some b := Option.mem_toList.mp hb
      rw [hj.eq_of_given hgiven]
      exact (hi.of_succ (givenAt_ne_of_mem_pendingOf hm ha)).earlier

/-! ## Registrations that stand -/

/-- After a number of steps, the registration that an earlier step answered stands: its notification was neither
withdrawn nor invoked since, and it is not in the ready queue. -/
structure Stands (host : Host σ α) (m : Machine σ α) (n j : Nat) (h : Handle) (request : Request α)
    (due : Option Instant) : Prop where
  earlier : j < n
  registered : m.occurrenceAt host j = some (.registered h request due)
  kept : ∀ k, j < k → k < n → m.occurrenceAt host k ≠ some (.cancelled h) ∧
    ∀ e, m.occurrenceAt host k ≠ some (.invoked h e)
  unselected : h ∉ (m.reactorAt host n).ready

namespace Stands

theorem not_freed (s : m.Stands host n j h request due) {k : Nat} (hjk : j < k) (hkn : k < n) :
    (m.occurrenceAt host k).bind Occurrence.freed? ≠ some h := by
  rw [ne_eq, Occurrence.bind_freed?_eq_some, not_or, not_exists]
  exact s.kept k hjk hkn

/-- **What stands waits in a group, armed as it was requested.** -/
theorem armed (s : m.Stands host n j h request due) (hm : m.system.reactor.WellFormed) :
    ∃ g, (m.reactorAt host n).notifications.get? h = some (request.armed due g) := by
  rcases phase_of_registered hm s.registered s.earlier fun k hjk hkn => s.not_freed hjk hkn with hwaits | hqueues
  · exact hwaits.1
  · exact absurd (mem_ready_of_queues hm hqueues) s.unselected

/-- No later step handed the same handle out. -/
theorem lastGiven (s : m.Stands host n j h request due) (hm : m.system.reactor.Initial) :
    m.LastGiven host n j h where
  earlier := s.earlier
  given := Occurrence.bind_given?_eq_some.mpr ⟨request, due, s.registered⟩
  last k hjk hkn hk := by
    obtain ⟨i, hji, hik, hi⟩ := (course_of_run hm).exists_freed_between hjk
      (Occurrence.bind_given?_eq_some.mpr ⟨request, due, s.registered⟩) hk
    exact s.not_freed hji (Nat.lt_trans hik hkn) hi

end Stands

/-- **What waits in a group is a registration that stands.** -/
theorem exists_stands (hm : m.system.reactor.Initial) {g : Handle} (hh : h ∈ (m.reactorAt host n).pendingOf g) :
    ∃ j request due, m.Stands host n j h request due := by
  have hwf := wellFormed_reactorAt host (Reactor.wellFormed_of_initial hm) n
  obtain ⟨v, hv, -⟩ := hwf.mem_pendingOf.mp hh
  have hcourse : Pool.Course _ (m.givenAt host) (m.freedAt host) := course_of_run hm
  obtain ⟨j, hjn, hgiven, hkeep⟩ :=
    hcourse.exists_given (Reactor.isPending_of_initial hm) (Pool.contains_eq_true.mpr ⟨v, hv⟩)
  obtain ⟨request, due, hreg⟩ := Occurrence.bind_given?_eq_some.mp hgiven
  refine ⟨j, request, due, hjn, hreg, fun k hjk hkn => ?_, hwf.not_mem_ready hh⟩
  have hfreed := hkeep k hjk hkn
  rw [freedAt, ne_eq, Occurrence.bind_freed?_eq_some, not_or, not_exists] at hfreed
  exact hfreed

/-! ## What waits on a descriptor -/

/-- The registration that stands is for a descriptor and a callback. -/
def StandsFor (host : Host σ α) (m : Machine σ α) (n j : Nat) (h : Handle) (d : Descriptor)
    (callback : Callback) : Prop :=
  ∃ request due, m.Stands host n j h request due ∧ request.descriptor = d ∧ request.callback = callback

variable {d : Descriptor} {callback : Callback}

theorem StandsFor.lastGiven (s : m.StandsFor host n j h d callback) (hm : m.system.reactor.Initial) :
    m.LastGiven host n j h := by
  obtain ⟨_, _, hstands, -⟩ := s
  exact hstands.lastGiven hm

/-- **What waits on a descriptor with a callback are the registrations for them that stand.** -/
theorem mem_waitingWith_iff (hm : m.system.reactor.Initial) :
    h ∈ (m.reactorAt host n).waitingWith d callback ↔ ∃ j, m.StandsFor host n j h d callback := by
  have hwf := wellFormed_reactorAt host (Reactor.wellFormed_of_initial hm) n
  rw [Reactor.mem_waitingWith, hwf.mem_waitingOn]
  constructor
  · rintro ⟨⟨v, hv, hd, g, hp⟩, harmed⟩
    obtain ⟨j, request, due, hstands⟩ := exists_stands hm (hwf.mem_pendingOf.mpr ⟨v, hv, hp⟩)
    obtain ⟨k, hk⟩ := hstands.armed (Reactor.wellFormed_of_initial hm)
    refine ⟨j, request, due, hstands, ?_, ?_⟩
    · rw [hv] at hk
      cases hk
      exact hd
    · rw [Reactor.armedWith, hk] at harmed
      exact of_decide_eq_true harmed
  · rintro ⟨j, request, due, hstands, hd, hcallback⟩
    obtain ⟨k, hk⟩ := hstands.armed (Reactor.wellFormed_of_initial hm)
    refine ⟨⟨_, hk, hd, k, rfl⟩, ?_⟩
    rw [Reactor.armedWith, hk]
    exact decide_eq_true hcallback

/-- **They wait in the order in which they were registered.** -/
theorem waitingWith_in_order (hm : m.system.reactor.Initial) (n : Nat) (d : Descriptor) (callback : Callback) :
    ((m.reactorAt host n).waitingWith d callback).Pairwise fun a b =>
      ∀ i j, m.StandsFor host n i a d callback → m.StandsFor host n j b d callback → i < j := by
  have hwaiting : ((m.reactorAt host n).waitingOn d).Pairwise (m.GivenBefore host n) := by
    cases hg : (m.reactorAt host n).findGroup d with
    | none =>
      rw [Reactor.waitingOn_of_none hg]
      exact List.Pairwise.nil
    | some g =>
      rw [Reactor.waitingOn_of_some hg]
      exact pendingOf_in_order hm n g
  refine (hwaiting.filter _).imp fun {a b} hbefore i j ha hb => ?_
  exact hbefore i j (ha.lastGiven hm) (hb.lastGiven hm)

end Machine

end EventLoop
