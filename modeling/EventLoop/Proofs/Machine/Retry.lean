import EventLoop.Proofs.Machine.Account
import EventLoop.Proofs.Pool.Calls
import EventLoop.Proofs.Reactor.Refusal

/-!
# Trying a registration again

A registration fails if the clock cannot be read or if something it asks for is refused. It leaves the reactor
as it was, so that it can be made again once the clock can be read and there is room.

* `Reactor.Reachable` — reactors in use, with bounds that are set on the growth of their pools at any time.
* `Host.register_cases` — the ways in which a registration ends.
* `failed_registration_changes_nothing` — what a failed registration leaves, and what a second one comes to.
-/

namespace EventLoop

variable {σ α : Type}

/-! ## Reactors in use -/

namespace Reactor

/-- The reactor with other bounds on the growth of its pools. -/
def limited (r : Reactor α) (groups notifications : Option Nat) : Reactor α :=
  { r with groups := r.groups.setLimit groups, notifications := r.notifications.setLimit notifications }

/-- The reactor under such bounds, in some surroundings. -/
def bounded (r : Reactor α) (groups notifications : Option Nat) (s : σ) : System σ α :=
  { reactor := r.limited groups notifications, outside := s }

/-- A reactor after any operations in any surroundings. Bounds may be set at any moment, also in the middle of
a tick. -/
inductive Reachable : Reactor α → Prop where
  | initial {r : Reactor α} (h : r.Initial) : Reachable r
  | run {σ : Type} (host : Host σ α) {m : Machine σ α} (h : Reachable m.system.reactor) (n : Nat) :
      Reachable (m.reactorAt host n)
  | limited {r : Reactor α} (h : Reachable r) (groups notifications : Option Nat) :
      Reachable (r.limited groups notifications)

variable {r r' : Reactor α}

theorem WellFormed.limited (hr : r.WellFormed) (groups notifications : Option Nat) :
    (r.limited groups notifications).WellFormed :=
  { hr with
    groups := (Pool.writes_of_setLimit hr.groups groups).wellFormed
    notifications := (Pool.writes_of_setLimit hr.notifications notifications).wellFormed }

theorem Reachable.wellFormed (h : r.Reachable) : r.WellFormed := by
  induction h with
  | initial h => exact wellFormed_of_initial h
  | run host _ n ih => exact Machine.wellFormed_reactorAt host ih n
  | limited _ groups notifications ih => exact ih.limited groups notifications

/-- Bounds on growth cannot be seen. -/
theorem Enrols.of_limited {groups notifications : Option Nat} {request : Request α} {due : Option Instant}
    {h : Handle} {s : Reactor α} (a : (r.limited groups notifications).Enrols request due h s) :
    r.Enrols request due h s :=
  ⟨a.absent, a.listing, a.armed, a.others, a.pending, a.ready⟩

/-- A failed registration does not ask for more when it is made again. -/
theorem Granted.of_rests {memory : Memory} {groups notifications : Option Nat} {d : Descriptor}
    (h : (r.limited groups notifications).Granted memory d) (hrests : r.Rests r')
    (hspare : r.groups.Respared r'.groups) : (r'.limited groups notifications).Granted memory d := by
  have hfind : ∀ d, (r'.limited groups notifications).findGroup d =
      (r.limited groups notifications).findGroup d := by
    intro d
    show r'.active.find? (fun g => (r'.groups.get? g).any _) = r.active.find? fun g => (r.groups.get? g).any _
    rw [hrests.active, funext hrests.get?]
  have hwaiting : (r'.limited groups notifications).waitingOn d =
      (r.limited groups notifications).waitingOn d := by
    have hpending : (r'.limited groups notifications).pendingOf =
        (r.limited groups notifications).pendingOf := by
      funext g
      exact congrArg (fun group => (group.map Group.pending).getD []) (hrests.get? g)
    rw [waitingOn, waitingOn, hfind, hpending]
  have hlimited : (r.limited groups notifications).groups.Respared (r'.limited groups notifications).groups :=
    ⟨rfl, hspare.spare⟩
  refine ⟨?_, ?_, ?_, ?_⟩
  · rw [hfind]
    show _ → memory.grants .groups ((r'.active.length + 1) * Handle.bytes) = true
    rw [hrests.active]
    exact h.active
  · rw [hfind]
    exact fun hnone => hlimited.canGrow (h.group hnone)
  · rw [hwaiting]
    exact h.pending
  · show r'.notifications.spare = [] → (r'.notifications.setLimit notifications).canGrow memory = true
    rw [hrests.notifications]
    exact h.notification

end Reactor

/-! ## How a registration ends -/

namespace Host

variable {host : Host σ α} {y : System σ α} {request : Request α}

/-- Finding out when a request is due changes nothing in the reactor, unless the clock fails. -/
theorem dueTime_cases (host : Host σ α) (y : System σ α) (timeout : Timeout) :
    (∃ due s, host.dueTime y timeout = (.ok due, { y with outside := s })) ∨
      ∃ fault s, host.dueTime y timeout =
        (.error (.clock fault), { reactor := y.reactor.recount y.reactor.counters.error, outside := s }) := by
  cases timeout with
  | infinite => exact Or.inl ⟨none, y.outside, rfl⟩
  | after delay =>
    unfold dueTime readClock
    rcases host.now y.outside with ⟨fault | t, s⟩
    · exact Or.inr ⟨fault, _, rfl⟩
    · exact Or.inl ⟨some (t + delay), s, rfl⟩

/-- The clock does not look at the reactor. -/
theorem dueTime_of_ok {r r' : Reactor α} {s s' : σ} {timeout : Timeout} {due : Option Instant}
    (h : host.dueTime { reactor := r, outside := s } timeout = (.ok due, { reactor := r, outside := s' })) :
    host.dueTime { reactor := r', outside := s } timeout = (.ok due, { reactor := r', outside := s' }) := by
  cases timeout with
  | infinite =>
    cases h
    rfl
  | after delay =>
    unfold dueTime readClock at h ⊢
    rcases hnow : host.now s with ⟨fault | t, s''⟩
    · rw [hnow] at h
      cases h
    · rw [hnow] at h
      cases h
      rfl

theorem register_of_due {due : Option Instant} {s : σ}
    (hdue : host.dueTime y request.timeout = (.ok due, { y with outside := s })) :
    (host.register y request).1 = (y.reactor.arm (host.memory s) request due).1 ∧
      (host.register y request).2.reactor = (y.reactor.arm (host.memory s) request due).2 := by
  unfold register
  rw [hdue]
  dsimp only
  rcases y.reactor.arm (host.memory s) request due with ⟨e | h, r⟩
  · exact ⟨rfl, rfl⟩
  · exact ⟨rfl, rfl⟩

/-- A registration fails at the clock, or it is settled by the reactor. -/
theorem register_cases (host : Host σ α) (y : System σ α) (request : Request α) :
    (∃ due s, host.dueTime y request.timeout = (.ok due, { y with outside := s })) ∨
      ∃ fault, (host.register y request).1 = .error (.clock fault) ∧
        (host.register y request).2.reactor = y.reactor.recount y.reactor.counters.error := by
  rcases host.dueTime_cases y request.timeout with hok | ⟨fault, s, herr⟩
  · exact Or.inl hok
  · refine Or.inr ⟨fault, ?_⟩
    unfold register
    rw [herr]
    exact ⟨rfl, rfl⟩

/-- A registration that can read the clock, if it has to, and to which nothing is refused. -/
def Serves (host : Host σ α) (y : System σ α) (request : Request α) : Prop :=
  ∃ due s, host.dueTime y request.timeout = (.ok due, { y with outside := s }) ∧
    y.reactor.Granted (host.memory s) request.descriptor

/-- What a registration comes to that nothing stands in the way of. -/
theorem register_of_granted (hy : y.reactor.WellFormed) {due : Option Instant} {s : σ}
    (hdue : host.dueTime y request.timeout = (.ok due, { y with outside := s }))
    (hgranted : y.reactor.Granted (host.memory s) request.descriptor) :
    ∃ h q, (host.register y request).1 = .ok h ∧
      y.reactor.notifications.acquire (host.memory s) = .ok (h, q) ∧
      y.reactor.Enrols request due h (host.register y request).2.reactor := by
  obtain ⟨hanswer, hreactor⟩ := register_of_due hdue
  have hok : (y.reactor.arm (host.memory s) request due).1.isOk = true :=
    (Reactor.arm_isOk_iff hy).mpr hgranted
  rcases harm : y.reactor.arm (host.memory s) request due with ⟨e | h, r⟩
  · rw [harm] at hok
    cases hok
  · rw [harm] at hanswer hreactor
    obtain ⟨q, hacq⟩ := Reactor.acquire_of_arm harm
    obtain ⟨g, harms⟩ := Reactor.arms_of_arm hy harm
    rw [hreactor]
    exact ⟨h, q, hanswer, hacq, harms.enrols hy⟩

end Host

/-! ## Failed registrations -/

/-- A failed registration leaves the reactor as it was, and does not stand in the way of a second one. -/
structure Reactor.LeavesNoTrace (r : Reactor α) (request : Request α) (e : ReactorError) (r' : Reactor α) :
    Prop where
  /-- Whatever a handle names, a notification or a group, is as before, and so are all lists. -/
  rests : r.Rests r'
  looksLike : r'.LooksLike r
  activeGroups : r'.groups.activeCount = r.groups.activeCount
  /-- Only spare groups are moved, … -/
  spare : r.groups.Respared r'.groups
  /-- … and only a failure of the clock is counted. -/
  counted : e = .outOfMemory ∧ r'.counters = r.counters ∨
    ∃ fault, e = .clock fault ∧ r'.counters = r.counters.error
  /-- Under any bounds and in any surroundings, the same registration succeeds if nothing stands in its way. -/
  again : ∀ {σ : Type} (host : Host σ α) (s : σ) (groups notifications : Option Nat),
    host.Serves (r'.bounded groups notifications s) request →
      ∃ h due, (host.register (r'.bounded groups notifications s) request).1 = .ok h ∧
        (host.dueTime (r'.bounded groups notifications s) request.timeout).1 = .ok due ∧
        r.Enrols request due h
          (host.register (r'.bounded groups notifications s) request).2.reactor
  /-- It then gives the handle that it would have given without the failed one, and leaves what looks the
  same. -/
  instead : ∀ {σ : Type} (host : Host σ α) (s : σ) (groups notifications : Option Nat),
    host.Serves (r.bounded groups notifications s) request →
      ∃ h, (host.register (r'.bounded groups notifications s) request).1 = .ok h ∧
        (host.register (r.bounded groups notifications s) request).1 = .ok h ∧
        (host.register (r'.bounded groups notifications s) request).2.reactor.LooksLike
          (host.register (r.bounded groups notifications s) request).2.reactor

namespace Reactor

variable {r r' : Reactor α} {request : Request α} {e : ReactorError}

/-- What a failed registration leaves of the groups settles what a second one comes to. -/
theorem leavesNoTrace (hr : r.WellFormed) (hrests : r.Rests r') (hspare : r.groups.Respared r'.groups)
    (hcounted : e = .outOfMemory ∧ r'.counters = r.counters ∨
      ∃ fault, e = .clock fault ∧ r'.counters = r.counters.error) :
    r.LeavesNoTrace request e r' where
  rests := hrests
  looksLike := hrests.looksLike
  activeGroups := by
    rw [hr.activeCount_groups, (hrests.wellFormed hr).activeCount_groups, hrests.active]
  spare := hspare
  counted := hcounted
  again host s groups notifications hserves := by
    obtain ⟨due, s', hdue, hgranted⟩ := hserves
    obtain ⟨h, q, hok, -, henrols⟩ := Host.register_of_granted
      ((hrests.wellFormed hr).limited groups notifications) hdue hgranted
    exact ⟨h, due, hok, by rw [hdue], henrols.of_limited.of_rests hrests⟩
  instead host s groups notifications hserves := by
    obtain ⟨due, s', hdue, hgranted⟩ := hserves
    obtain ⟨h, q, hok, hacq, henrols⟩ := Host.register_of_granted (hr.limited groups notifications) hdue
      hgranted
    obtain ⟨h', q', hok', hacq', henrols'⟩ := Host.register_of_granted
      (y := r'.bounded groups notifications s) ((hrests.wellFormed hr).limited groups notifications)
      (Host.dueTime_of_ok hdue) (hgranted.of_rests hrests hspare)
    -- both take their notification from the same pool
    have hpool : (r'.bounded groups notifications s).reactor.notifications =
        (r.bounded groups notifications s).reactor.notifications :=
      congrArg (Pool.setLimit · notifications) hrests.notifications
    rw [hpool, hacq] at hacq'
    cases hacq'
    exact ⟨h, hok', hok, (henrols'.of_limited.of_rests hrests).looksLike henrols.of_limited⟩

end Reactor

namespace Host

/-- **A registration that fails leaves no trace, and a second one comes to what the first would have.** -/
theorem failed_registration_changes_nothing {host : Host σ α} {y : System σ α} {request : Request α}
    {e : ReactorError} (hy : y.reactor.Reachable) (herr : (host.register y request).1 = .error e) :
    y.reactor.LeavesNoTrace request e (host.register y request).2.reactor := by
  have hwf := hy.wellFormed
  rcases host.register_cases y request with ⟨due, s, hdue⟩ | ⟨fault, hclock, hreactor⟩
  · obtain ⟨hanswer, hreactor⟩ := register_of_due hdue
    have hcounters := y.reactor.counters_of_arm (host.memory s) request due
    rw [herr] at hanswer
    rw [hreactor]
    rcases harm : y.reactor.arm (host.memory s) request due with ⟨e' | h, r⟩
    · rw [harm] at hanswer hcounters
      cases hanswer
      refine Reactor.leavesNoTrace hwf (Reactor.rests_of_arm hwf harm) (Reactor.respared_of_arm hwf harm) ?_
      rcases hcounters with ⟨h, hok, -⟩ | ⟨e', -, hsame⟩
      · cases hok
      · exact Or.inl ⟨Reactor.error_of_arm hwf harm, hsame⟩
    · rw [harm] at hanswer
      cases hanswer
  · rw [herr] at hclock
    cases hclock
    rw [hreactor]
    exact Reactor.leavesNoTrace hwf (hwf.rests_recount _) (.refl _) (Or.inr ⟨fault, rfl, rfl⟩)

/-- Somebody waits for one descriptor already, and no further notification may be allocated. -/
def crowded : System Unit Unit :=
  ((Machine.start .unused .readOnce).reactorAt .steady 1).bounded none (some 1) ()

/-- A registration on another descriptor. -/
def elsewhere : Request Unit := { Request.toRead with descriptor := .fd 4 }

theorem failed_registration_of_crowded :
    crowded.reactor.Reachable ∧ (Host.steady.register crowded elsewhere).1 = .error .outOfMemory ∧
      crowded.reactor.LeavesNoTrace elsewhere .outOfMemory (Host.steady.register crowded elsewhere).2.reactor ∧
      (Host.steady.register crowded elsewhere).2.reactor.groups.spareCount = 1 ∧
      Host.steady.Serves ((Host.steady.register crowded elsewhere).2.reactor.bounded none none ())
        elsewhere := by
  have hreachable : crowded.reactor.Reachable := .limited (.run .steady (.initial (.empty _)) 1) none (some 1)
  refine ⟨hreachable, rfl, failed_registration_changes_nothing hreachable rfl, rfl, none, (), rfl, ?_⟩
  exact ⟨fun _ => rfl, fun _ _ => rfl, rfl, fun _ => rfl⟩

end Host

end EventLoop
