import EventLoop.Proofs.Machine.Nesting
import EventLoop.Proofs.Reactor.Waiting

/-!
# The wait of a tick

A tick asks its surroundings one question: a wait on the poll set, for no longer than a bound.
`Host.waitCall` is that question, and `Host.afterWait` what the tick makes of the answer.

* `select_of_waitCall`, `select_of_waitCall_eq_none` — a tick waits by this call, or not at all.
* `active_ordered` — the groups stand in the order in which they were opened.
* `waits_for_interest_and_deadlines` — what every tick of every run waits for, and how long.
-/

namespace EventLoop

variable {σ α : Type}

/-- A call of the wait. -/
structure WaitCall (σ : Type) where
  entries : List PollEntry
  bound : Option Span
  /-- What the clock showed just before; none if it was not read, for want of a deadline. -/
  before : Option Instant
  /-- The surroundings in which it is made. -/
  outside : σ

namespace Host

/-- The call that a tick makes after it has looked at the clock, or after it has seen no reason to. -/
def callAfter (host : Host σ α) (before : Option Instant) (y : System σ α) : WaitCall σ :=
  let entries := y.reactor.pollSet
  let left := y.reactor.earliest.bind fun due => before.map due.since
  let bound := waitBound left (!entries.isEmpty) y.reactor.floor
  { entries, bound, before, outside := host.notify (Reactor.waitingNotice entries bound) y.outside }

/-- The call that a tick makes; none if it fails before. -/
def waitCall (host : Host σ α) (y : System σ α) : Option (WaitCall σ) :=
  if host.hasRoom y then
    let y := host.report (Reactor.pollSetNotice y.reactor) y
    match y.reactor.earliest with
    | none => some (host.callAfter none y)
    | some _ =>
      match host.readClock y with
      | (.ok now, y) => some (host.callAfter (some now) y)
      | (.error _, _) => none
  else none

/-- What a tick of a reactor makes of the answer to its call. -/
def afterWait (host : Host σ α) (r : Reactor α) :
    Except Fault (List Conditions) × σ → Except ReactorError Unit × System σ α
  | (.error fault, s) =>
    (.error (.ofWait fault), host.report (Reactor.waitFailedNotice fault)
      (countError { reactor := r.recount r.counters.tick, outside := s }))
  | (.ok reported, s) =>
    match host.readClock { reactor := r.recount r.counters.tick, outside := s } with
    | (.error e, y) => (.error e, y)
    | (.ok now, y) => (.ok (), { y with reactor := y.reactor.collect reported now })

theorem readClock_cases (host : Host σ α) (y : System σ α) :
    (∃ t s, host.now y.outside = (.ok t, s) ∧ host.readClock y = (.ok t, { y with outside := s })) ∨
      ∃ e y', host.readClock y = (.error e, y') := by
  unfold readClock
  rcases hnow : host.now y.outside with ⟨fault | t, s⟩
  · exact Or.inr ⟨_, _, rfl⟩
  · exact Or.inl ⟨t, s, rfl, rfl⟩

/-- A tick makes no call for want of room, or because there is a deadline and the clock cannot be read. -/
theorem cases_of_waitCall_eq_none {host : Host σ α} {y : System σ α} (h : host.waitCall y = none) :
    host.hasRoom y = false ∨ host.hasRoom y = true ∧ ∃ due fault s, y.reactor.earliest = some due ∧
      host.now (host.notify (Reactor.pollSetNotice y.reactor) y.outside) = (.error fault, s) := by
  unfold waitCall at h
  split at h
  · next hroom =>
    refine Or.inr ⟨hroom, ?_⟩
    dsimp only at h
    split at h
    · cases h
    · next due hdue =>
      unfold readClock report at h
      dsimp only at h
      rcases hnow : host.now (host.notify (Reactor.pollSetNotice y.reactor) y.outside) with ⟨fault | t, s⟩
      · exact ⟨due, fault, s, hdue, rfl⟩
      · rw [hnow] at h
        cases h
  · next hroom => exact Or.inl (eq_false_of_ne_true hroom)

/-- A tick for which there is no room fails at once. -/
theorem select_of_not_hasRoom {host : Host σ α} {y : System σ α} (h : host.hasRoom y = false) :
    host.select y = (.error .outOfMemory, y) := by
  unfold select
  rw [if_neg (by rw [h]; exact Bool.false_ne_true)]

/-- A tick with a deadline fails when it cannot read the clock. -/
theorem select_of_unread {host : Host σ α} {y : System σ α} (hroom : host.hasRoom y = true) {due : Instant}
    (hdue : y.reactor.earliest = some due) {fault : Fault} {s : σ}
    (hnow : host.now (host.notify (Reactor.pollSetNotice y.reactor) y.outside) = (.error fault, s)) :
    host.select y =
      (.error (.clock fault),
        host.report (Reactor.clockNotice fault) (countError { reactor := y.reactor, outside := s })) := by
  unfold select
  rw [if_pos hroom]
  unfold remaining readClock report
  dsimp only
  rw [hdue, hnow]

/-- A tick that makes a call has reserved what it needs, and has read the clock if there is a deadline. -/
theorem remaining_of_waitCall {host : Host σ α} {y : System σ α} {call : WaitCall σ}
    (h : host.waitCall y = some call) :
    host.hasRoom y = true ∧ ∃ s,
      host.remaining (host.report (Reactor.pollSetNotice y.reactor) y) y.reactor.earliest =
        (.ok (y.reactor.earliest.bind fun due => call.before.map due.since), { y with outside := s }) ∧
      call = host.callAfter call.before { y with outside := s } ∧
      call.before.isSome = y.reactor.earliest.isSome ∧
      ∀ t, call.before = some t →
        host.now (host.notify (Reactor.pollSetNotice y.reactor) y.outside) = (.ok t, s) := by
  unfold waitCall at h
  split at h
  · next hroom =>
    refine ⟨hroom, ?_⟩
    dsimp only at h
    unfold remaining
    split at h
    · next hdue =>
      cases h
      rw [show y.reactor.earliest = none from hdue]
      exact ⟨_, rfl, rfl, rfl, nofun⟩
    · next due hdue =>
      rw [show y.reactor.earliest = some due from hdue]
      dsimp only
      rcases host.readClock_cases (host.report (Reactor.pollSetNotice y.reactor) y) with
        ⟨t, s, hnow, hread⟩ | ⟨e, y', hread⟩
      · rw [hread] at h ⊢
        cases h
        refine ⟨s, rfl, rfl, rfl, ?_⟩
        rintro _ ⟨⟩
        exact hnow
      · rw [hread] at h
        cases h
  · cases h

/-- A tick that makes no call does not wait: it is the same however the surroundings would answer. -/
theorem select_of_waitCall_eq_none {host : Host σ α} {y : System σ α} (h : host.waitCall y = none)
    (wait : List PollEntry → Option Span → σ → Except Fault (List Conditions) × σ) :
    ({ host with wait } : Host σ α).select y = host.select y := by
  rcases cases_of_waitCall_eq_none h with hroom | ⟨hroom, due, fault, s, hdue, hnow⟩
  · rw [select_of_not_hasRoom hroom]
    exact select_of_not_hasRoom hroom
  · rw [select_of_unread hroom hdue hnow]
    exact select_of_unread (show ({ host with wait } : Host σ α).hasRoom y = true from hroom) hdue hnow

/-- **The first part of a tick is its call, and what it makes of the answer.** -/
theorem select_of_waitCall {host : Host σ α} {y : System σ α} {call : WaitCall σ}
    (h : host.waitCall y = some call) :
    host.select y = host.afterWait y.reactor (host.wait call.entries call.bound call.outside) := by
  obtain ⟨hroom, s, hleft, hcall, -⟩ := remaining_of_waitCall h
  unfold select
  rw [if_pos hroom]
  dsimp only
  rw [hleft, hcall]
  unfold await callAfter afterWait
  dsimp only
  rcases host.wait _ _ _ with ⟨fault | reported, s'⟩
  · rfl
  · rfl

theorem observed_of_waitCall {host : Host σ α} {y : System σ α} {call : WaitCall σ}
    (h : host.waitCall y = some call) {reported : List Conditions} {s s' : σ} {now : Instant}
    (hwait : host.wait call.entries call.bound call.outside = (.ok reported, s))
    (hnow : host.now s = (.ok now, s')) : host.observed y = some (reported, now) := by
  obtain ⟨hroom, s₀, hleft, hcall, -⟩ := remaining_of_waitCall h
  rw [hcall] at hwait
  unfold callAfter at hwait
  dsimp only at hwait
  unfold observed
  rw [if_pos hroom]
  dsimp only
  rw [hleft]
  unfold await readClock
  dsimp only
  rw [hwait]
  dsimp only
  rw [hnow]

end Host

/-- A step opens one group at most, behind all others, and the others keep their order. -/
theorem Reactor.Effect.active_cases {o : Option (Occurrence α)} {r r' : Reactor α} (he : Effect o r r')
    (hr : r.WellFormed) :
    r'.active.Sublist r.active ∨ ∃ g, g ∉ r.active ∧ r'.active = r.active ++ [g] := by
  cases he with
  | none rests =>
    rw [rests.active]
    exact Or.inl (List.Sublist.refl _)
  | @registered _ _ _ _ _ g arms =>
    rw [arms.active]
    split
    · exact Or.inl (List.Sublist.refl _)
    · next hg => exact Or.inr ⟨g, mt (hr.mem_active g).mp hg, rfl⟩
  | cancelled withdraws =>
    rw [withdraws.thins.active]
    exact Or.inl List.filter_sublist
  | selected selects =>
    rw [selects.thins.active]
    exact Or.inl List.filter_sublist
  | invoked takes =>
    rw [takes.active]
    exact Or.inl (List.Sublist.refl _)

namespace Machine

/-! ## Ticks of a run -/

/-- The call of the wait that the step after a number of steps makes; none if it makes none. -/
def waitCallAt (host : Host σ α) (m : Machine σ α) (k : Nat) : Option (WaitCall σ) :=
  if (m.run host k).begins host then host.waitCall (m.run host k).system else none

/-! ## The order of the groups -/

/-- The step that opened a group, for one that is in use after a number of steps. -/
def openedAt (host : Host σ α) (m : Machine σ α) (g : Handle) : Nat → Nat
  | 0 => 0
  | k + 1 => if g ∈ (m.reactorAt host k).active then openedAt host m g k else k

theorem openedAt_lt {host : Host σ α} {m : Machine σ α} (hm : m.system.reactor.active = [])
    {g : Handle} {k : Nat} (hg : g ∈ (m.reactorAt host k).active) : m.openedAt host g k < k := by
  induction k with
  | zero =>
    rw [show (m.reactorAt host 0).active = [] from hm] at hg
    cases hg
  | succ k ih =>
    unfold openedAt
    split
    · next hk => exact Nat.lt_succ_of_lt (ih hk)
    · exact Nat.lt_succ_self k

/-- **The groups stand in the order in which they were opened.** -/
theorem active_ordered {host : Host σ α} {m : Machine σ α} (hm : m.system.reactor.WellFormed)
    (hnil : m.system.reactor.active = []) (k : Nat) :
    (m.reactorAt host k).active.Pairwise fun g l => m.openedAt host g k < m.openedAt host l k := by
  induction k with
  | zero =>
    rw [show (m.reactorAt host 0).active = [] from hnil]
    exact List.Pairwise.nil
  | succ k ih =>
    have hkeep : ∀ g ∈ (m.reactorAt host k).active,
        m.openedAt host g (k + 1) = m.openedAt host g k := fun g hg => if_pos hg
    have hpair : (m.reactorAt host k).active.Pairwise fun g l =>
        m.openedAt host g (k + 1) < m.openedAt host l (k + 1) :=
      ih.imp_of_mem fun hg hl hlt => by rwa [hkeep _ hg, hkeep _ hl]
    rcases (effect_at host hm k).active_cases (wellFormed_reactorAt host hm k) with hsub | ⟨g, hg, heq⟩
    · exact hpair.sublist hsub
    · rw [heq]
      refine List.pairwise_append.mpr ⟨hpair, List.pairwise_singleton _ g, ?_⟩
      intro l hl x hx
      rw [List.mem_singleton.mp hx, hkeep l hl, show m.openedAt host g (k + 1) = k from if_neg hg]
      exact openedAt_lt hnil hl

end Machine

/-! ## What a tick waits for -/

/-- What a reactor asks of a wait. -/
structure Reactor.Asks (r : Reactor α) (call : WaitCall σ) : Prop where
  /-- There is one entry for each group with a file and an interest, in the order of the groups. -/
  entries : List.Forall₂ r.EntryFor (r.active.filter r.isPolled) call.entries
  /-- No file is asked about twice. -/
  nodup : (call.entries.map PollEntry.number).Nodup
  bounded : r.Bounded call.entries call.before call.bound

/-- How long a wait may last is told by the deadlines and the floor, however the reactor came about. -/
theorem Host.bounded_of_waitCall {host : Host σ α} {y : System σ α} {call : WaitCall σ}
    (h : host.waitCall y = some call) : y.reactor.Bounded call.entries call.before call.bound := by
  obtain ⟨-, s, -, hcall, hbefore, -⟩ := remaining_of_waitCall h
  have hbound : call.bound = waitBound (y.reactor.earliest.bind fun due => call.before.map due.since)
      (!call.entries.isEmpty) y.reactor.floor := by
    rw [hcall]
    rfl
  rw [hbound]
  exact y.reactor.bounded_waitBound call.entries hbefore

theorem Host.asks_of_waitCall {host : Host σ α} {y : System σ α} {call : WaitCall σ}
    (hy : y.reactor.WellFormed) (h : host.waitCall y = some call) : y.reactor.Asks call := by
  have hentries : call.entries = y.reactor.pollSet := by
    obtain ⟨-, s, -, hcall, -⟩ := remaining_of_waitCall h
    rw [hcall]
    rfl
  refine ⟨?_, ?_, bounded_of_waitCall h⟩
  · rw [hentries]
    exact Reactor.forall₂_pollSet hy
  · rw [hentries]
    exact Reactor.pollSet_numbers_nodup hy

/-- To be notified when five milliseconds have passed. -/
def Request.toWake : Request Unit :=
  { descriptor := .timer, callback := ⟨1⟩, arg := (), interest := .none
    timeout := .after (.ofMicros 5000) }

/-- Registers for reading and for waking up, and runs one tick. -/
def Program.readOrWake : Program Unit Unit :=
  .register .toRead fun _ => .register .toWake fun _ => .tick fun _ => .done

namespace Machine

/-- **Every tick waits for the interest of all groups, and until the earliest deadline.** The groups stand
in the order in which they were opened, and the state after the step is what the tick makes of the answer to
this very call. -/
theorem waits_for_interest_and_deadlines {y : System σ α} (hy : y.reactor.Initial) (host : Host σ α)
    (p : Program σ α) {k : Nat} {call : WaitCall σ}
    (hcall : (start y p).waitCallAt host k = some call) :
    ((start y p).reactorAt host k).Asks call ∧
      (((start y p).reactorAt host k).active.Pairwise fun g l =>
        (start y p).openedAt host g k < (start y p).openedAt host l k) ∧
      ((start y p).run host (k + 1)).system =
        (host.afterWait ((start y p).reactorAt host k)
          (host.wait call.entries call.bound call.outside)).2 ∧
      ∀ now, call.before = some now →
        ∃ s s', host.now s = (.ok now, s') ∧
          call.outside = host.notify (Reactor.waitingNotice call.entries call.bound) s' := by
  unfold waitCallAt at hcall
  split at hcall
  · next hbegins =>
    have hwf : (start y p).system.reactor.WellFormed := Reactor.wellFormed_of_initial hy
    refine ⟨Host.asks_of_waitCall (wellFormed_reactorAt host hwf k) hcall,
      active_ordered hwf (Reactor.active_of_initial hy) k, ?_, ?_⟩
    · obtain ⟨m', hstep, hsystem⟩ := system_of_begins hbegins
      rw [run_succ, hstep, Option.getD_some, hsystem, Host.select_of_waitCall hcall]
      rfl
    · intro now hnow
      obtain ⟨-, s, -, heq, -, hread⟩ := Host.remaining_of_waitCall hcall
      refine ⟨_, s, hread now hnow, ?_⟩
      rw [heq]
      rfl
  · cases hcall

theorem waits_until_deadline :
    (start .unused .readOrWake).waitCallAt .steady 2 =
        some
          { entries := [.ofInterest 3 .read], bound := some (.ofMicros 5000), before := some .origin
            outside := () } ∧
      ((start .unused .readOrWake).reactorAt .steady 2).Asks (σ := Unit)
        { entries := [.ofInterest 3 .read], bound := some (.ofMicros 5000), before := some .origin
          outside := () } :=
  ⟨rfl, (waits_for_interest_and_deadlines (y := .unused) (.empty _) .steady .readOrWake rfl).1⟩

end Machine

end EventLoop
