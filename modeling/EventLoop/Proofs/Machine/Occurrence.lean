import EventLoop.Proofs.Reactor.Dispatch
import EventLoop.Proofs.Reactor.Selection
import EventLoop.Reactor.Machine

/-!
# What one step of a machine does to its reactor

Most steps leave the reactor alone. The others register, withdraw, select or dispatch: `Machine.occurrence`
tells which, with the handles and answers involved, and `Reactor.Effect` says what each of them does.

* `effect_of_step` — every step does to the reactor what its occurrence says.
* `exists_registration_of_register`, `exists_register_of_occurrence` — a registration occurs exactly when
  one is answered with a handle.
* `Effect.wellFormed` — whatever happens, the records of the reactor still agree.
-/

namespace EventLoop

variable {σ α : Type}

/-- What happens to a reactor. -/
inductive Occurrence (α : Type) where
  /-- A registration was answered with a handle. -/
  | registered (h : Handle) (request : Request α) (due : Option Instant)
  /-- A withdrawal was answered with success. -/
  | cancelled (h : Handle)
  /-- A tick got past its wait, which reported conditions, and past the clock, which showed an instant. -/
  | selected (reported : List Conditions) (now : Instant)
  /-- A notification was handed to its callback. -/
  | invoked (h : Handle) (e : Event α)

/-! ## Effects -/

namespace Reactor

/-- What an occurrence does to a reactor. -/
inductive Effect : Option (Occurrence α) → Reactor α → Reactor α → Prop where
  | none {r r' : Reactor α} (rests : r.Rests r') : Effect none r r'
  | registered {r r' : Reactor α} {request : Request α} {due : Option Instant} {h g : Handle}
      (arms : r.Arms request due h g r') : Effect (some (.registered h request due)) r r'
  | cancelled {r r' : Reactor α} {h : Handle} (withdraws : r.Withdraws h r') :
      Effect (some (.cancelled h)) r r'
  | selected {r r' : Reactor α} {reported : List Conditions} {now : Instant}
      (selects : r.Selects reported now r') : Effect (some (.selected reported now)) r r'
  | invoked {r r' : Reactor α} {h : Handle} {e : Event α} (takes : r.Takes h e r') :
      Effect (some (.invoked h e)) r r'

/-- Whatever happens, the records still agree. -/
theorem Effect.wellFormed {o : Option (Occurrence α)} {r r' : Reactor α} (he : Effect o r r')
    (hr : r.WellFormed) : r'.WellFormed := by
  cases he with
  | none rests => exact rests.wellFormed hr
  | registered arms => exact arms.wellFormed hr
  | cancelled withdraws => exact withdraws.wellFormed hr
  | selected selects => exact selects.wellFormed hr
  | invoked takes => exact takes.wellFormed hr

/-! ## Counters play no part -/

/-- The reactor with other counters. -/
def recount (r : Reactor α) (c : Counters) : Reactor α := { r with counters := c }

theorem WellFormed.rests_recount {r : Reactor α} (hr : r.WellFormed) (c : Counters) :
    r.Rests (r.recount c) where
  groups := hr.groups
  get? _ := rfl
  active := rfl
  notifications := rfl
  ready := rfl
  floor := rfl

theorem WellFormed.recount {r : Reactor α} (hr : r.WellFormed) (c : Counters) :
    (r.recount c).WellFormed :=
  (hr.rests_recount c).wellFormed hr

theorem Rests.of_recount {r r' : Reactor α} {c : Counters} (h : (r.recount c).Rests r') : r.Rests r' :=
  ⟨h.groups, h.get?, h.active, h.notifications, h.ready, h.floor⟩

theorem Arms.of_recount {r r' : Reactor α} {c : Counters} {request : Request α} {due : Option Instant}
    {h g : Handle} (a : (r.recount c).Arms request due h g r') : r.Arms request due h g r' :=
  ⟨a.notifications, a.groups, a.get?, a.descriptor, a.active, a.ready, a.floor⟩

theorem Selects.of_recount {r r' : Reactor α} {c : Counters} {reported : List Conditions}
    {now : Instant} (s : (r.recount c).Selects reported now r') : r.Selects reported now r' :=
  ⟨s.notifications, ⟨s.thins.groups, s.thins.get?, s.thins.active⟩, s.ready, s.floor⟩

end Reactor

/-! ## The operations of a system -/

namespace Host

/-- What a registration comes to. -/
def registration (host : Host σ α) (y : System σ α) (request : Request α) : Option (Occurrence α) :=
  match (host.register y request).1, (host.dueTime y request.timeout).1 with
  | .ok h, .ok due => some (.registered h request due)
  | _, _ => none

/-- What a withdrawal comes to. -/
def withdrawal (host : Host σ α) (y : System σ α) (h : Handle) : Option (Occurrence α) :=
  match (host.cancel y h).1 with
  | .ok () => some (.cancelled h)
  | .error _ => none

/-- What a tick learns if it gets past its wait and past the clock: the reported conditions and the
instant. -/
def observed (host : Host σ α) (y : System σ α) : Option (List Conditions × Instant) :=
  if host.hasRoom y then
    let entries := y.reactor.pollSet
    match host.remaining (host.report (Reactor.pollSetNotice y.reactor) y) y.reactor.earliest with
    | (.error _, _) => none
    | (.ok left, y) =>
      match host.await y entries (waitBound left (!entries.isEmpty) y.reactor.floor) with
      | (.error _, _) => none
      | (.ok reported, y) =>
        match host.readClock y with
        | (.error _, _) => none
        | (.ok now, _) => some (reported, now)
  else none

/-- What the first part of a tick comes to. -/
def selection (host : Host σ α) (y : System σ α) : Option (Occurrence α) :=
  (host.observed y).map fun seen => .selected seen.1 seen.2

theorem registration_eq_some {host : Host σ α} {y : System σ α} {request : Request α}
    {o : Occurrence α} :
    host.registration y request = some o ↔
      ∃ h due, (host.register y request).1 = .ok h ∧ (host.dueTime y request.timeout).1 = .ok due ∧
        o = .registered h request due := by
  unfold registration
  split
  · next h due hh hdue => simp [hh, hdue, eq_comm]
  · next hnot =>
    refine ⟨nofun, ?_⟩
    rintro ⟨h, due, hh, hdue, -⟩
    exact absurd hdue (hnot h due hh)

/-- Every registration that is answered with a handle is one that occurs. -/
theorem exists_registration_of_register {host : Host σ α} {y : System σ α} {request : Request α}
    {h : Handle} (hok : (host.register y request).1 = .ok h) :
    ∃ due, host.registration y request = some (.registered h request due) := by
  cases hdue : (host.dueTime y request.timeout).1 with
  | ok due => exact ⟨due, registration_eq_some.mpr ⟨h, due, hok, hdue, rfl⟩⟩
  | error e =>
    rcases heq : host.dueTime y request.timeout with ⟨res, y'⟩
    rw [heq] at hdue
    cases hdue
    rw [register, heq] at hok
    cases hok

theorem withdrawal_eq_some {host : Host σ α} {y : System σ α} {h : Handle} {o : Occurrence α} :
    host.withdrawal y h = some o ↔ (host.cancel y h).1 = .ok () ∧ o = .cancelled h := by
  unfold withdrawal
  split
  · next hok => simp [hok, eq_comm]
  · next e herr => simp [herr]

theorem selection_eq_some {host : Host σ α} {y : System σ α} {o : Occurrence α} :
    host.selection y = some o ↔
      ∃ reported now, host.observed y = some (reported, now) ∧ o = .selected reported now := by
  unfold selection
  cases host.observed y with
  | none => simp
  | some seen =>
    obtain ⟨reported, now⟩ := seen
    simp [eq_comm]

theorem readClock_reactor (host : Host σ α) (y : System σ α) :
    ∃ c, (host.readClock y).2.reactor = y.reactor.recount c := by
  unfold readClock
  split
  · exact ⟨_, rfl⟩
  · exact ⟨_, rfl⟩

theorem dueTime_reactor (host : Host σ α) (y : System σ α) (timeout : Timeout) :
    ∃ c, (host.dueTime y timeout).2.reactor = y.reactor.recount c := by
  unfold dueTime
  split
  · exact ⟨_, rfl⟩
  · obtain ⟨c, hc⟩ := host.readClock_reactor y
    split
    · next heq => exact ⟨c, by rw [← hc, heq]⟩
    · next heq => exact ⟨c, by rw [← hc, heq]⟩

theorem remaining_reactor (host : Host σ α) (y : System σ α) (due : Option Instant) :
    ∃ c, (host.remaining y due).2.reactor = y.reactor.recount c := by
  unfold remaining
  split
  · exact ⟨_, rfl⟩
  · obtain ⟨c, hc⟩ := host.readClock_reactor y
    split
    · next heq => exact ⟨c, by rw [← hc, heq]⟩
    · next heq => exact ⟨c, by rw [← hc, heq]⟩

theorem await_reactor (host : Host σ α) (y : System σ α) (entries : List PollEntry)
    (timeout : Option Span) :
    ∃ c, (host.await y entries timeout).2.reactor = y.reactor.recount c := by
  unfold await
  dsimp only
  split
  · exact ⟨_, rfl⟩
  · exact ⟨_, rfl⟩

/-- What a registration does, and what it answers. -/
theorem effect_of_register {host : Host σ α} {y : System σ α} {request : Request α}
    (hy : y.reactor.WellFormed) :
    Reactor.Effect (host.registration y request) y.reactor (host.register y request).2.reactor := by
  obtain ⟨c, hc⟩ := host.dueTime_reactor y request.timeout
  unfold registration register
  rcases hdue : host.dueTime y request.timeout with ⟨e | due, y₁⟩
  · rw [hdue] at hc
    dsimp only at hc ⊢
    rw [hc]
    exact .none (hy.rests_recount c)
  · rw [hdue] at hc
    dsimp only at hc ⊢
    rw [hc]
    rcases harm : (y.reactor.recount c).arm (host.memory y₁.outside) request due with ⟨e | h, r⟩
    · exact .none (Reactor.rests_of_arm (hy.recount c) harm).of_recount
    · obtain ⟨g, harms⟩ := Reactor.arms_of_arm (hy.recount c) harm
      exact .registered harms.of_recount

/-- A withdrawal succeeds for what is still to be dispatched; otherwise it changes nothing at all. -/
theorem cancel_cases (host : Host σ α) {y : System σ α} (hy : y.reactor.WellFormed) (h : Handle) :
    (y.reactor.isPending h = true ∧ (host.cancel y h).1 = .ok () ∧
        y.reactor.Withdraws h (host.cancel y h).2.reactor) ∨
      (y.reactor.isPending h = false ∧ host.cancel y h = (.error .stale, y)) := by
  unfold cancel
  rcases Reactor.cancel_eq hy h with ⟨hp, hok⟩ | ⟨hp, hstale⟩
  · have hcancel : y.reactor.cancel h = (.ok (), (y.reactor.cancel h).2) := by rw [← hok]
    rw [hcancel]
    exact Or.inl ⟨hp, rfl, Reactor.withdraws_of_cancel hy hcancel⟩
  · rw [hstale]
    exact Or.inr ⟨hp, rfl⟩

/-- What a withdrawal does, and what it answers. -/
theorem effect_of_cancel {host : Host σ α} {y : System σ α} {h : Handle} (hy : y.reactor.WellFormed) :
    Reactor.Effect (host.withdrawal y h) y.reactor (host.cancel y h).2.reactor := by
  unfold withdrawal
  rcases host.cancel_cases hy h with ⟨-, hok, hw⟩ | ⟨-, hstale⟩
  · rw [hok]
    exact .cancelled hw
  · rw [hstale]
    exact .none hy.rests_refl

/-- The first part of a tick collects what it observed, or fails and leaves the reactor alone. -/
theorem select_cases (host : Host σ α) (y : System σ α) :
    (∃ reported now c, host.observed y = some (reported, now) ∧ (host.select y).1 = .ok () ∧
        (host.select y).2.reactor = (y.reactor.recount c).collect reported now) ∨
      ∃ e c, host.observed y = none ∧ (host.select y).1 = .error e ∧
        (host.select y).2.reactor = y.reactor.recount c := by
  unfold observed select
  split
  · -- each of the three steps only counts, so the reactor that is collected from is the old one
    dsimp only
    obtain ⟨c₁, h₁⟩ := host.remaining_reactor (host.report (Reactor.pollSetNotice y.reactor) y)
      y.reactor.earliest
    rcases hleft : host.remaining (host.report (Reactor.pollSetNotice y.reactor) y)
      y.reactor.earliest with ⟨e | left, y₁⟩
    · rw [hleft] at h₁
      exact Or.inr ⟨e, c₁, rfl, rfl, h₁⟩
    · rw [hleft] at h₁
      dsimp only at h₁ ⊢
      obtain ⟨c₂, h₂⟩ := host.await_reactor y₁ y.reactor.pollSet
        (waitBound left (!y.reactor.pollSet.isEmpty) y₁.reactor.floor)
      rcases hwait : host.await y₁ y.reactor.pollSet
        (waitBound left (!y.reactor.pollSet.isEmpty) y₁.reactor.floor) with ⟨e | reported, y₂⟩
      · rw [hwait, h₁] at h₂
        exact Or.inr ⟨e, c₂, rfl, rfl, h₂⟩
      · rw [hwait, h₁] at h₂
        dsimp only at h₂ ⊢
        obtain ⟨c₃, h₃⟩ := host.readClock_reactor y₂
        rcases hnow : host.readClock y₂ with ⟨e | now, y₃⟩
        · rw [hnow, h₂] at h₃
          exact Or.inr ⟨e, c₃, rfl, rfl, h₃⟩
        · rw [hnow, h₂] at h₃
          exact Or.inl ⟨reported, now, c₃, rfl, rfl,
            congrArg (fun r : Reactor α => r.collect reported now) h₃⟩
  · exact Or.inr ⟨.outOfMemory, y.reactor.counters, rfl, rfl, rfl⟩

/-- What the first part of a tick does. -/
theorem effect_of_select {host : Host σ α} {y : System σ α} (hy : y.reactor.WellFormed) :
    Reactor.Effect (host.selection y) y.reactor (host.select y).2.reactor := by
  unfold selection
  rcases host.select_cases y with ⟨reported, now, c, hseen, -, hr⟩ | ⟨e, c, hseen, -, hr⟩
  · rw [hseen, hr]
    exact .selected (Reactor.selects_of_collect (hy.recount c) reported now).of_recount
  · rw [hseen, hr]
    exact .none (hy.rests_recount c)

/-- A tick goes on to the ready queue exactly if it got past its wait and past the clock. -/
theorem select_eq_ok_iff {host : Host σ α} {y : System σ α} :
    (host.select y).1 = .ok () ↔ (host.observed y).isSome = true := by
  rcases host.select_cases y with ⟨reported, now, c, hseen, hok, -⟩ | ⟨e, c, hseen, herr, -⟩
  · simp [hseen, hok]
  · simp [hseen, herr]

end Host

namespace Reactor

/-- What looking at the ready queue comes to. -/
def dispatched (r : Reactor α) : Option (Occurrence α) :=
  match r.ready, r.takeReady with
  | h :: _, some (some e, _) => some (.invoked h e)
  | _, _ => none

theorem dispatched_eq_some {r : Reactor α} {o : Occurrence α} :
    r.dispatched = some o ↔
      ∃ h rest e r', r.ready = h :: rest ∧ r.takeReady = some (some e, r') ∧ o = .invoked h e := by
  unfold dispatched
  split
  · next h rest e r' hq ht => simp [hq, ht, eq_comm]
  · next hnot =>
    refine ⟨nofun, ?_⟩
    rintro ⟨h, rest, e, r', hq, ht, -⟩
    exact (hnot h rest e r' hq ht).elim

end Reactor

/-! ## Steps -/

namespace Machine

/-- What the next step does to the reactor; none if nothing that a handle can show. -/
def occurrence (host : Host σ α) (m : Machine σ α) : Option (Occurrence α) :=
  match m.control with
  | .program (.register request _) => host.registration m.system request
  | .program (.cancel h _) => host.withdrawal m.system h
  | .program (.tick _) => host.selection m.system
  | .driver _ _ => if m.willTick host then host.selection m.system else none
  | .drain _ => m.system.reactor.dispatched
  | _ => none

theorem beginTick_system (host : Host σ α) (y : System σ α) (frames : List (Frame σ α)) :
    (beginTick host y frames).system = (host.select y).2 := by
  unfold beginTick
  split
  · next h => rw [h]
  · next h => rw [h]

theorem effect_of_stepDrain {host : Host σ α} {y : System σ α} {served : Nat}
    {frames : List (Frame σ α)} (hy : y.reactor.WellFormed) :
    Reactor.Effect y.reactor.dispatched y.reactor (stepDrain host y served frames).system.reactor := by
  unfold Reactor.dispatched stepDrain
  rcases Reactor.takeReady_cases hy with ⟨hq, hnone⟩ | ⟨h, e, r', hsome, htakes⟩
  · rw [hnone, hq]
    exact .none hy.rests_refl
  · rw [hsome, htakes.ready]
    exact .invoked htakes

theorem effect_of_stepDriver {host : Host σ α} {m : Machine σ α} {ticks : Nat}
    {maxTicks : Option UInt64} (hm : m.system.reactor.WellFormed)
    (hc : m.control = .driver ticks maxTicks) :
    Reactor.Effect (m.occurrence host) m.system.reactor
      (stepDriver host m.system ticks maxTicks m.frames).system.reactor := by
  simp only [occurrence, willTick, hc]
  unfold stepDriver
  -- the loop ends, ends at its limit, or makes one more tick
  by_cases hstop : host.stopped m.system.outside = true
  · simp only [hstop]
    exact .none hm.rests_refl
  · by_cases hlimit : isLimit ticks maxTicks = true
    · simp only [hstop, hlimit]
      exact .none hm.rests_refl
    · simp only [hstop, hlimit]
      rw [show (!false && !false) = true from rfl]
      exact beginTick_system host m.system _ ▸ Host.effect_of_select hm

theorem effect_of_stepProgram {host : Host σ α} {m m' : Machine σ α} {p : Program σ α}
    (hm : m.system.reactor.WellFormed) (hc : m.control = .program p)
    (hs : stepProgram host m.system m.frames p = some m') :
    Reactor.Effect (m.occurrence host) m.system.reactor m'.system.reactor := by
  simp only [occurrence, hc]
  cases p with
  | done =>
    dsimp only [stepProgram] at hs
    split at hs
    · cases hs
      exact .none hm.rests_refl
    · cases hs
  | outside act next =>
    cases hs
    exact .none hm.rests_refl
  | register request next =>
    cases hs
    exact Host.effect_of_register hm
  | cancel h next =>
    cases hs
    exact Host.effect_of_cancel hm
  | isPending h next =>
    cases hs
    exact .none hm.rests_refl
  | lookup d callback next =>
    cases hs
    exact .none hm.rests_refl
  | status next =>
    cases hs
    exact .none hm.rests_refl
  | tick next =>
    cases hs
    rw [beginTick_system]
    exact Host.effect_of_select hm
  | drive maxTicks next =>
    cases hs
    exact .none hm.rests_refl

/-- **Every step does to the reactor what its occurrence says.** -/
theorem effect_of_step {host : Host σ α} {m m' : Machine σ α} (hm : m.system.reactor.WellFormed)
    (hs : m.step host = some m') :
    Reactor.Effect (m.occurrence host) m.system.reactor m'.system.reactor := by
  unfold step at hs
  cases hc : m.control with
  | program p =>
    rw [hc] at hs
    exact effect_of_stepProgram hm hc hs
  | drain served =>
    rw [hc] at hs
    cases hs
    simp only [occurrence, hc]
    exact effect_of_stepDrain hm
  | driver ticks maxTicks =>
    rw [hc] at hs
    cases hs
    exact effect_of_stepDriver hm hc
  | answer result =>
    rw [hc] at hs
    dsimp only at hs
    simp only [occurrence, hc]
    split at hs
    · cases hs
      exact .none hm.rests_refl
    · cases hs
      unfold afterTick
      split <;> exact .none hm.rests_refl
    · cases hs

/-- Nothing happens to the reactor once there is nothing left to do. -/
theorem occurrence_of_step_eq_none {host : Host σ α} {m : Machine σ α} (hs : m.step host = none) :
    m.occurrence host = none := by
  unfold step at hs
  unfold occurrence
  cases hc : m.control with
  | program p =>
    rw [hc] at hs
    cases p <;> first | rfl | cases hs
  | drain served =>
    rw [hc] at hs
    cases hs
  | driver ticks maxTicks =>
    rw [hc] at hs
    cases hs
  | answer result => rfl

/-! ## What an occurrence tells of the machine -/

theorem occurrence_cases {host : Host σ α} {m : Machine σ α} {o : Occurrence α}
    (ho : m.occurrence host = some o) :
    (∃ request next, m.control = .program (.register request next) ∧
        host.registration m.system request = some o) ∨
      (∃ h next, m.control = .program (.cancel h next) ∧ host.withdrawal m.system h = some o) ∨
      ((∃ next, m.control = .program (.tick next)) ∨ m.willTick host = true) ∧
        host.selection m.system = some o ∨
      ∃ served, m.control = .drain served ∧ m.system.reactor.dispatched = some o := by
  unfold occurrence at ho
  split at ho
  · next request next hc => exact Or.inl ⟨request, next, hc, ho⟩
  · next h next hc => exact Or.inr (Or.inl ⟨h, next, hc, ho⟩)
  · next next hc => exact Or.inr (Or.inr (Or.inl ⟨Or.inl ⟨next, hc⟩, ho⟩))
  · split at ho
    · next hw => exact Or.inr (Or.inr (Or.inl ⟨Or.inr hw, ho⟩))
    · cases ho
  · next served hc => exact Or.inr (Or.inr (Or.inr ⟨served, hc, ho⟩))
  · cases ho

/-- A registration occurs when a program asks for it and is answered with the handle. -/
theorem exists_register_of_occurrence {host : Host σ α} {m : Machine σ α} {h : Handle}
    {request : Request α} {due : Option Instant}
    (ho : m.occurrence host = some (.registered h request due)) :
    ∃ next, m.control = .program (.register request next) ∧
      (host.register m.system request).1 = .ok h ∧
      (host.dueTime m.system request.timeout).1 = .ok due := by
  rcases occurrence_cases ho with ⟨request', next, hc, hr⟩ | ⟨k, next, -, hw⟩ | ⟨-, hs⟩ | ⟨served, -, hd⟩
  · obtain ⟨k, due', hk, hdue, he⟩ := Host.registration_eq_some.mp hr
    cases he
    exact ⟨next, hc, hk, hdue⟩
  · cases (Host.withdrawal_eq_some.mp hw).2
  · obtain ⟨reported, now, -, he⟩ := Host.selection_eq_some.mp hs
    cases he
  · obtain ⟨k, rest, e, r, -, -, he⟩ := Reactor.dispatched_eq_some.mp hd
    cases he

/-- A notification is invoked when a tick in progress looks at the ready queue and finds it first. -/
theorem exists_drain_of_occurrence {host : Host σ α} {m : Machine σ α} {h : Handle} {e : Event α}
    (ho : m.occurrence host = some (.invoked h e)) :
    ∃ served rest r, m.control = .drain served ∧ m.system.reactor.ready = h :: rest ∧
      m.system.reactor.takeReady = some (some e, r) := by
  rcases occurrence_cases ho with ⟨request', next, -, hr⟩ | ⟨k, next, -, hw⟩ | ⟨-, hs⟩ | ⟨served, hc, hd⟩
  · obtain ⟨k, due', -, -, he⟩ := Host.registration_eq_some.mp hr
    cases he
  · cases (Host.withdrawal_eq_some.mp hw).2
  · obtain ⟨reported, now, -, he⟩ := Host.selection_eq_some.mp hs
    cases he
  · obtain ⟨k, rest, e', r, hq, ht, he⟩ := Reactor.dispatched_eq_some.mp hd
    cases he
    exact ⟨served, rest, r, hc, hq, ht⟩

/-- A selection occurs when a tick begins and gets past its wait and past the clock. -/
theorem exists_tick_of_occurrence {host : Host σ α} {m : Machine σ α} {reported : List Conditions}
    {now : Instant} (ho : m.occurrence host = some (.selected reported now)) :
    ((∃ next, m.control = .program (.tick next)) ∨ m.willTick host = true) ∧
      host.observed m.system = some (reported, now) := by
  rcases occurrence_cases ho with ⟨request', next, -, hr⟩ | ⟨k, next, -, hw⟩ | ⟨ht, hs⟩ | ⟨served, -, hd⟩
  · obtain ⟨k, due', -, -, he⟩ := Host.registration_eq_some.mp hr
    cases he
  · cases (Host.withdrawal_eq_some.mp hw).2
  · obtain ⟨reported', now', hseen, he⟩ := Host.selection_eq_some.mp hs
    cases he
    exact ⟨ht, hseen⟩
  · obtain ⟨k, rest, e', r, -, -, he⟩ := Reactor.dispatched_eq_some.mp hd
    cases he

end Machine

end EventLoop
