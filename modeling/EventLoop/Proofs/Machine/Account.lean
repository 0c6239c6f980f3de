import EventLoop.Proofs.Machine.Shift
import EventLoop.Proofs.Machine.Transcript

/-!
# What the counters say

The counters of a reactor are running totals, so at every moment they can be told from what has happened so
far: from the transcript, from the invocations, and from what is still to be dispatched.

* `Counters.tally`, `Counters.happen` — what exchanges and occurrences add.
* `counters_of_step` — every step adds its exchanges and its occurrence, and nothing else.
* `Reactor.Effect.mask` — what a callback is given is a passed deadline or something that a wait can ask for.
* `counters_account_for_history` — the totals, at every moment of every run.
-/

namespace EventLoop

variable {σ α : Type}

/-! ## What is counted -/

/-- Is it a wait? -/
def Exchange.isWait : Exchange → Bool
  | wait _ _ _ => true
  | clock _ => false

/-- Did it fail? -/
def Exchange.isFailure : Exchange → Bool
  | clock answer => !answer.isOk
  | wait _ _ answer => !answer.isOk

namespace Event

/-- Was the callback invoked because its deadline had passed? -/
def isTimeout (e : Event α) : Bool := e.triggered = .timeout

/-- Was the callback invoked because of something that a wait can ask for? -/
def isReadiness (e : Event α) : Bool :=
  e.triggered ≠ .none ∧ e.triggered &&& .waitable = e.triggered

/-- Nothing that a wait can ask for is a passed deadline. -/
theorem isReadiness_eq_not {e : Event α} (h : e.isTimeout = true ∨ e.isReadiness = true) :
    e.isReadiness = !e.isTimeout := by
  unfold isReadiness isTimeout at *
  by_cases ht : e.triggered = .timeout
  · rw [ht]
    decide
  · simpa [ht] using h

/-- Why a callback was invoked. -/
def cause (e : Event α) : Cause := if e.triggered = .timeout then .deadline else .readiness

end Event

namespace Counters

/-- The counters after exchanges with the surroundings. -/
def tally (c : Counters) (l : List Exchange) : Counters :=
  c.shift (.ofNat (l.countP Exchange.isWait)) (.ofNat (l.countP Exchange.isFailure))

/-- The counters after an occurrence. -/
def happen (c : Counters) : Option (Occurrence α) → Counters
  | some (.registered _ _ _) => c.register
  | some (.cancelled _) => c.cancel
  | some (.invoked _ e) => c.dispatch e.cause
  | some (.selected _ _) => c
  | none => c

@[simp] theorem tally_nil (c : Counters) : c.tally [] = c := c.shift_zero

theorem shift_shift (a b a' b' : UInt64) (c : Counters) :
    (c.shift a b).shift a' b' = c.shift (a + a') (b + b') := by
  simp [shift, UInt64.add_assoc]

theorem tally_append (c : Counters) (l l' : List Exchange) :
    c.tally (l ++ l') = (c.tally l).tally l' := by
  unfold tally
  rw [shift_shift, List.countP_append, List.countP_append, UInt64.ofNat_add, UInt64.ofNat_add]

theorem tally_cons (c : Counters) (x : Exchange) (l : List Exchange) :
    c.tally (x :: l) = (c.tally [x]).tally l := c.tally_append [x] l

theorem tally_clock_ok (c : Counters) (t : Instant) : c.tally [.clock (.ok t)] = c := c.shift_zero

theorem tally_clock_error (c : Counters) (fault : Fault) :
    c.tally [.clock (.error fault)] = c.error := c.error_eq_shift.symm

theorem tally_wait_ok (c : Counters) (entries : List PollEntry) (bound : Option Span)
    (reported : List Conditions) : c.tally [.wait entries bound (.ok reported)] = c.tick := by
  simp [tally, shift, tick, Exchange.isWait, Exchange.isFailure, Except.isOk, Except.toBool]

theorem tally_wait_error (c : Counters) (entries : List PollEntry) (bound : Option Span)
    (fault : Fault) : c.tally [.wait entries bound (.error fault)] = c.tick.error := by
  simp [tally, shift, tick, error, Exchange.isWait, Exchange.isFailure, Except.isOk, Except.toBool]

section

variable (c : Counters) (l : List Exchange)

theorem ticks_tally : (c.tally l).ticks = c.ticks + .ofNat (l.countP Exchange.isWait) := rfl

theorem errors_tally : (c.tally l).errors = c.errors + .ofNat (l.countP Exchange.isFailure) := rfl

theorem dispatched_tally : (c.tally l).dispatched = c.dispatched := rfl

theorem timeouts_tally : (c.tally l).timeouts = c.timeouts := rfl

theorem triggered_tally : (c.tally l).triggered = c.triggered := rfl

end

/-- Only exchanges are counted as ticks and errors. -/
theorem happen_ticks_errors (c : Counters) (o : Option (Occurrence α)) :
    (c.happen o).ticks = c.ticks ∧ (c.happen o).errors = c.errors := by
  rcases o with _ | ⟨⟩ | ⟨⟩ | ⟨⟩ | ⟨h, e⟩
  · simp [happen]
  · simp [happen, register]
  · simp [happen, cancel]
  · simp [happen]
  · cases hc : e.cause <;> simp [happen, dispatch, hc]

theorem happen_timeouts (c : Counters) (o : Option (Occurrence α)) :
    (c.happen o).timeouts =
      c.timeouts + if (o.bind Occurrence.invoked?).any (fun i => i.2.isTimeout) then 1 else 0 := by
  rcases o with _ | ⟨⟩ | ⟨⟩ | ⟨⟩ | ⟨h, e⟩
  · simp [happen]
  · simp [happen, register, Occurrence.invoked?]
  · simp [happen, cancel, Occurrence.invoked?]
  · simp [happen, Occurrence.invoked?]
  · by_cases ht : e.triggered = .timeout
    · simp [happen, dispatch, Event.cause, Event.isTimeout, Occurrence.invoked?, ht]
    · simp [happen, dispatch, Event.cause, Event.isTimeout, Occurrence.invoked?, ht]

theorem happen_triggered (c : Counters) (o : Option (Occurrence α)) :
    (c.happen o).triggered =
      c.triggered + if (o.bind Occurrence.invoked?).any (fun i => !i.2.isTimeout) then 1 else 0 := by
  rcases o with _ | ⟨⟩ | ⟨⟩ | ⟨⟩ | ⟨h, e⟩
  · simp [happen]
  · simp [happen, register, Occurrence.invoked?]
  · simp [happen, cancel, Occurrence.invoked?]
  · simp [happen, Occurrence.invoked?]
  · by_cases ht : e.triggered = .timeout
    · simp [happen, dispatch, Event.cause, Event.isTimeout, Occurrence.invoked?, ht]
    · simp [happen, dispatch, Event.cause, Event.isTimeout, Occurrence.invoked?, ht]

/-- An invocation has one cause. -/
theorem happen_dispatched {c : Counters} (hc : c.dispatched = c.timeouts + c.triggered)
    (o : Option (Occurrence α)) :
    (c.happen o).dispatched = (c.happen o).timeouts + (c.happen o).triggered := by
  rcases o with _ | ⟨⟩ | ⟨⟩ | ⟨⟩ | ⟨h, e⟩
  · exact hc
  · exact hc
  · exact hc
  · exact hc
  · simp only [happen]
    cases e.cause with
    | readiness => simp only [dispatch, hc, UInt64.add_assoc]
    | deadline => simp only [dispatch, hc, UInt64.add_assoc, UInt64.add_comm 1]

end Counters

/-! ## The operations of a reactor -/

namespace Reactor

theorem counters_of_attach {memory : Memory} {r r' : Reactor α} {g h : Handle} {request : Request α}
    {due : Option Instant} (ha : r.attach memory g request due = .ok (h, r')) :
    r'.counters = r.counters := by
  unfold attach at ha
  split at ha
  · cases ha
  · split at ha
    · split at ha
      · cases ha
      · cases ha
        rfl
    · cases ha

/-- Only a registration that is accepted counts. -/
theorem counters_of_arm (memory : Memory) (r : Reactor α) (request : Request α) (due : Option Instant) :
    (∃ h, (r.arm memory request due).1 = .ok h ∧
        (r.arm memory request due).2.counters = r.counters.register) ∨
      ∃ e, (r.arm memory request due).1 = .error e ∧
        (r.arm memory request due).2.counters = r.counters := by
  unfold arm
  split
  · next g hg =>
    split
    · next h r' ha => exact Or.inl ⟨h, rfl, by rw [← counters_of_attach ha]⟩
    · next e ha => exact Or.inr ⟨e, rfl, rfl⟩
  · split
    · split
      · next e ha => exact Or.inr ⟨.ofPool e, rfl, rfl⟩
      · next g groups hacq =>
        dsimp only
        split
        · next h r' ha => exact Or.inl ⟨h, rfl, by rw [counters_of_attach ha]⟩
        · next e ha => exact Or.inr ⟨e, rfl, rfl⟩
    · exact Or.inr ⟨_, rfl, rfl⟩

theorem counters_detach (r : Reactor α) (g h : Handle) : (r.detach g h).counters = r.counters := by
  unfold detach
  split
  · rfl
  · dsimp only
    split <;> rfl

/-- Only a withdrawal that succeeds counts. -/
theorem counters_of_cancel (r : Reactor α) (h : Handle) :
    ((r.cancel h).1 = .ok () ∧ (r.cancel h).2.counters = r.counters.cancel) ∨
      ∃ e, (r.cancel h).1 = .error e ∧ (r.cancel h).2.counters = r.counters := by
  unfold cancel
  dsimp only
  split
  · exact Or.inr ⟨_, rfl, rfl⟩
  · split
    · next g _ => exact Or.inl ⟨rfl, by dsimp only; rw [counters_detach]⟩
    · exact Or.inl ⟨rfl, rfl⟩
    · exact Or.inr ⟨_, rfl, rfl⟩

theorem counters_selectIn (now : Instant) (r : Reactor α) (g : Handle) (fired : Events) :
    (selectIn now r g fired).counters = r.counters := by
  unfold selectIn
  split <;> rfl

theorem counters_collect (r : Reactor α) (reported : List Conditions) (now : Instant) :
    (r.collect reported now).counters = r.counters := by
  have hfold : ∀ (fired : List (Handle × Events)) (s : Reactor α),
      (fired.foldl (fun s p => selectIn now s p.1 p.2) s).counters = s.counters := by
    intro fired
    induction fired with
    | nil => exact fun s => rfl
    | cons p fired ih => exact fun s => (ih _).trans (counters_selectIn now s p.1 p.2)
  exact hfold _ r

theorem counters_of_takeReady {r r' : Reactor α} {e : Event α}
    (ht : r.takeReady = some (some e, r')) : r'.counters = r.counters.dispatch e.cause := by
  unfold takeReady at ht
  split at ht
  · cases ht
  · split at ht
    · cases ht
    · split at ht
      · cases ht
      · cases ht
        rfl

end Reactor

/-! ## The operations of a system -/

namespace Host

variable (host : Host σ α) (y : System σ α)

theorem readClock_counters :
    (host.readClock y).2.reactor.counters = y.reactor.counters.tally [host.clockExchange y] := by
  unfold readClock clockExchange
  rcases host.now y.outside with ⟨fault | t, s⟩
  · exact (Counters.tally_clock_error _ fault).symm
  · exact (Counters.tally_clock_ok _ t).symm

theorem dueTime_counters (timeout : Timeout) :
    (host.dueTime y timeout).2.reactor.counters =
      y.reactor.counters.tally (host.dueExchanges y timeout) := by
  unfold dueTime dueExchanges
  cases timeout with
  | infinite => exact (Counters.tally_nil _).symm
  | after delay =>
    dsimp only
    rw [← readClock_counters]
    rcases host.readClock y with ⟨e | t, z⟩
    · rfl
    · rfl

theorem register_counters (request : Request α) :
    (host.register y request).2.reactor.counters =
      (y.reactor.counters.tally (host.dueExchanges y request.timeout)).happen
        (host.registration y request) := by
  rw [← dueTime_counters]
  unfold registration register
  rcases host.dueTime y request.timeout with ⟨e | due, z⟩
  · rfl
  · dsimp only
    have harm := z.reactor.counters_of_arm (host.memory z.outside) request due
    generalize z.reactor.arm (host.memory z.outside) request due = answered at harm ⊢
    obtain ⟨res, r⟩ := answered
    rcases harm with ⟨h, ⟨⟩, hc⟩ | ⟨e, ⟨⟩, hc⟩
    · exact hc
    · exact hc

theorem cancel_counters (h : Handle) :
    (host.cancel y h).2.reactor.counters = y.reactor.counters.happen (host.withdrawal y h) := by
  unfold withdrawal cancel
  have hcancel := y.reactor.counters_of_cancel h
  generalize y.reactor.cancel h = answered at hcancel ⊢
  obtain ⟨res, r⟩ := answered
  rcases hcancel with ⟨⟨⟩, hc⟩ | ⟨e, ⟨⟩, hc⟩
  · exact hc
  · exact hc

theorem remaining_counters (due : Option Instant) :
    (host.remaining y due).2.reactor.counters =
      y.reactor.counters.tally (host.leftExchanges y due) := by
  unfold remaining leftExchanges
  cases due with
  | none => exact (Counters.tally_nil _).symm
  | some due =>
    dsimp only
    rw [← readClock_counters]
    rcases host.readClock y with ⟨e | t, z⟩
    · rfl
    · rfl

theorem await_counters (entries : List PollEntry) (bound : Option Span) :
    (host.await y entries bound).2.reactor.counters =
      y.reactor.counters.tally [host.waitExchange y entries bound] := by
  unfold await waitExchange
  dsimp only
  rcases host.wait entries bound _ with ⟨fault | reported, s⟩
  · exact (Counters.tally_wait_error _ entries bound fault).symm
  · exact (Counters.tally_wait_ok _ entries bound reported).symm

theorem select_counters :
    (host.select y).2.reactor.counters = y.reactor.counters.tally (host.tickExchanges y) := by
  unfold select tickExchanges
  split
  · dsimp only
    rw [Counters.tally_append, show y.reactor.counters.tally _ = _ from
      (host.remaining_counters (host.report (Reactor.pollSetNotice y.reactor) y) y.reactor.earliest).symm]
    rcases host.remaining _ _ with ⟨e | left, y₁⟩
    · exact (Counters.tally_nil _).symm
    · dsimp only
      rw [Counters.tally_cons, ← await_counters]
      rcases host.await y₁ _ _ with ⟨e | reported, y₂⟩
      · exact (Counters.tally_nil _).symm
      · dsimp only
        rw [← readClock_counters]
        rcases host.readClock y₂ with ⟨e | now, y₃⟩
        · rfl
        · exact y₃.reactor.counters_collect reported now
  · exact (Counters.tally_nil _).symm

theorem happen_selection (c : Counters) : c.happen (host.selection y) = c := by
  unfold selection
  rcases host.observed y with _ | ⟨reported, now⟩
  · rfl
  · rfl

end Host

/-! ## Steps -/

namespace Machine

variable {host : Host σ α} {m m' : Machine σ α}

/-- **A step counts its exchanges with the surroundings and what it does to the reactor.** -/
theorem counters_of_step (hm : m.system.reactor.WellFormed) (hs : m.step host = some m') :
    m'.system.reactor.counters =
      (m.system.reactor.counters.tally (m.exchanges host)).happen (m.occurrence host) := by
  cases move_of_step hs with
  | begins hb hy =>
    rw [hy, exchanges_of_begins hb, occurrence_of_begins hb, Host.happen_selection]
    exact host.select_counters m.system
  | @register request next hc hy =>
    unfold exchanges occurrence
    rw [hy, hc]
    exact host.register_counters m.system request
  | @cancel h next hc hy =>
    unfold exchanges occurrence
    rw [hy, hc]
    dsimp only
    rw [Counters.tally_nil]
    exact host.cancel_counters m.system h
  | takes hc ht =>
    unfold exchanges occurrence
    rw [hc]
    dsimp only
    rw [Counters.tally_nil]
    unfold Reactor.dispatched
    -- what is first in the queue was registered with a callback, so it is dispatched
    rcases Reactor.takeReady_cases hm with ⟨-, hnone⟩ | ⟨h, e, r', hsome, htakes⟩
    · rw [hnone] at ht
      cases ht
    · rw [hsome] at ht
      cases ht
      rw [hsome, htakes.ready]
      exact Reactor.counters_of_takeReady hsome
  | rests hr ho hx =>
    rw [hr, ho, hx]
    exact (Counters.tally_nil _).symm

end Machine

/-! ## Masks -/

theorem Events.inter_waitable_of_inter {a b : Events} (ha : a &&& b = a) (hb : b &&& .waitable = b) :
    a &&& .waitable = a := by
  have ha' : a.bits &&& b.bits = a.bits := congrArg Events.bits ha
  have hb' : b.bits &&& 7 = b.bits := congrArg Events.bits hb
  have hbits : a.bits &&& 7 = a.bits := by rw [← ha', UInt32.and_assoc, hb']
  exact congrArg Events.mk hbits

theorem Occurrence.bind_invoked?_eq_some {o : Option (Occurrence α)} {i : Handle × Event α} :
    o.bind invoked? = some i ↔ o = some (.invoked i.1 i.2) := by
  rcases o with _ | ⟨⟩ | ⟨⟩ | ⟨⟩ | ⟨h, e⟩
  · simp
  · simp [invoked?]
  · simp [invoked?]
  · simp [invoked?]
  · simp [invoked?, Prod.ext_iff]

namespace Reactor.Effect

variable {o : Option (Occurrence α)} {r r' : Reactor α}

/-- **What a callback is given is a passed deadline, or something that a wait can ask for.** -/
theorem mask (he : Effect o r r') (hr : r.WellFormed) {h : Handle} {e : Event α}
    (ho : o.bind Occurrence.invoked? = some (h, e)) : e.isTimeout = true ∨ e.isReadiness = true := by
  obtain rfl := Occurrence.bind_invoked?_eq_some.mp ho
  cases he with
  | invoked takes =>
    obtain ⟨n, hn, hplace, htells⟩ := takes.tells
    have hsound := hr.sound h n hn
    rw [Event.isTimeout, Event.isReadiness, htells.triggered]
    rcases hsound.selected hplace with ⟨htimeout, -⟩ | ⟨hne, hsub⟩
    · exact Or.inl (by simp [htimeout])
    · -- the interest holds nothing else, so neither does a part of it
      exact Or.inr (by simp [hne, Events.inter_waitable_of_inter hsub hsound.interest])

end Reactor.Effect

/-! ## What is still to be dispatched -/

namespace Reactor.Effect

variable {o : Option (Occurrence α)} {r r' : Reactor α}

/-- What was registered was dispatched, was withdrawn, or is still to be dispatched: so it stays. -/
theorem conserves (he : Effect o r r') {c : Counters}
    (hc : c.registered = c.dispatched + c.cancelled + .ofNat r.pending) :
    (c.happen o).registered =
      (c.happen o).dispatched + (c.happen o).cancelled + .ofNat r'.pending := by
  have hone : ∀ n : Nat, UInt64.ofNat (n + 1) = UInt64.ofNat n + 1 := fun n => by
    rw [UInt64.ofNat_add]
    rfl
  unfold pending at hc ⊢
  cases he with
  | none rests =>
    rw [rests.notifications]
    exact hc
  | registered arms =>
    simp only [Counters.happen, Counters.register, hc, arms.notifications.activeCount, hone,
      UInt64.add_assoc]
  | cancelled withdraws =>
    simp only [Counters.happen, Counters.cancel, hc, ← withdraws.notifications.activeCount, hone,
      UInt64.add_assoc, UInt64.add_comm 1]
  | selected selects =>
    rw [selects.notifications.activeCount]
    exact hc
  | @invoked _ _ h e takes =>
    rw [← takes.notifications.activeCount, hone] at hc
    simp only [Counters.happen]
    cases e.cause with
    | readiness => simp only [Counters.dispatch, hc]; ac_rfl
    | deadline => simp only [Counters.dispatch, hc]; ac_rfl

end Reactor.Effect

/-! ## Whole runs -/

namespace Machine

/-- What the counters say of a run after a number of steps, modulo 2 ^ 64. -/
structure Accounts (host : Host σ α) (m : Machine σ α) (n : Nat) : Prop where
  /-- What was registered was dispatched, was withdrawn, or is still to be dispatched. -/
  registered : (m.reactorAt host n).counters.registered =
    (m.reactorAt host n).counters.dispatched + (m.reactorAt host n).counters.cancelled +
      .ofNat (m.reactorAt host n).pending
  dispatched : (m.reactorAt host n).counters.dispatched =
    (m.reactorAt host n).counters.timeouts + (m.reactorAt host n).counters.triggered
  /-- The invocations because of a deadline, … -/
  timeouts : (m.reactorAt host n).counters.timeouts =
    .ofNat ((m.invocations host n).countP fun i => i.2.2.isTimeout)
  /-- … those because of readiness, … -/
  triggered : (m.reactorAt host n).counters.triggered =
    .ofNat ((m.invocations host n).countP fun i => i.2.2.isReadiness)
  /-- … and there are no others. -/
  masks : ∀ i ∈ m.invocations host n, i.2.2.isTimeout = true ∨ i.2.2.isReadiness = true
  ticks : (m.reactorAt host n).counters.ticks = .ofNat ((m.transcript host n).countP Exchange.isWait)
  errors : (m.reactorAt host n).counters.errors =
    .ofNat ((m.transcript host n).countP Exchange.isFailure)

variable {host : Host σ α} {m : Machine σ α}

theorem counters_at (host : Host σ α) (hm : m.system.reactor.WellFormed) (n : Nat) :
    (m.reactorAt host (n + 1)).counters =
      ((m.reactorAt host n).counters.tally ((m.run host n).exchanges host)).happen
        (m.occurrenceAt host n) := by
  unfold reactorAt occurrenceAt
  rw [run_succ]
  cases hs : (m.run host n).step host with
  | none =>
    rw [exchanges_of_step_eq_none hs, occurrence_of_step_eq_none hs]
    exact (Counters.tally_nil _).symm
  | some m' => exact counters_of_step (wellFormed_reactorAt host hm n) hs

theorem countP_invocations_succ (p : Event α → Bool) (n : Nat) :
    UInt64.ofNat ((m.invocations host (n + 1)).countP fun i => p i.2.2) =
      .ofNat ((m.invocations host n).countP fun i => p i.2.2) +
        if (m.invokedAt host n).any (fun i => p i.2) then 1 else 0 := by
  rw [invocations_succ, List.countP_append, UInt64.ofNat_add]
  rcases m.invokedAt host n with _ | ⟨h, e⟩
  · simp
  · by_cases hp : p e = true
    · simp [hp]
    · simp [hp]

theorem mask_at (hm : m.system.reactor.WellFormed) {n : Nat} {i : Handle × Event α}
    (hi : m.invokedAt host n = some i) : i.2.isTimeout = true ∨ i.2.isReadiness = true :=
  (effect_at host hm n).mask (wellFormed_reactorAt host hm n) hi

/-- The induction is on the number of steps: one more adds to both sides of each total what it does. -/
theorem Accounts.succ (hm : m.system.reactor.WellFormed) {n : Nat} (h : m.Accounts host n) :
    m.Accounts host (n + 1) := by
  have hcounters := counters_at host hm n
  constructor
  · rw [hcounters]
    exact (effect_at host hm n).conserves h.registered
  · rw [hcounters]
    refine Counters.happen_dispatched ?_ _
    rw [Counters.dispatched_tally, Counters.timeouts_tally, Counters.triggered_tally]
    exact h.dispatched
  · rw [hcounters, Counters.happen_timeouts, Counters.timeouts_tally, h.timeouts,
      countP_invocations_succ, invokedAt]
  · rw [hcounters, Counters.happen_triggered, Counters.triggered_tally, h.triggered,
      countP_invocations_succ]
    cases hi : m.invokedAt host n with
    | none => rw [show (m.occurrenceAt host n).bind Occurrence.invoked? = none from hi]; rfl
    | some i =>
      rw [show (m.occurrenceAt host n).bind Occurrence.invoked? = some i from hi, Option.any_some,
        Option.any_some, Event.isReadiness_eq_not (mask_at hm hi)]
  · intro i hi
    rw [invocations_succ, List.mem_append] at hi
    rcases hi with hi | hi
    · exact h.masks i hi
    · cases hinv : m.invokedAt host n with
      | none => simp [hinv] at hi
      | some p =>
        obtain rfl : i = (n, p) := by simpa [hinv] using hi
        exact mask_at hm hinv
  · rw [hcounters, (Counters.happen_ticks_errors _ _).1, Counters.ticks_tally, h.ticks,
      transcript_succ, List.countP_append, UInt64.ofNat_add]
  · rw [hcounters, (Counters.happen_ticks_errors _ _).2, Counters.errors_tally, h.errors,
      transcript_succ, List.countP_append, UInt64.ofNat_add]

end Machine

theorem Reactor.counters_of_initial {r : Reactor α} (h : r.Initial) : r.counters = {} := by
  cases h with
  | empty floor => rfl
  | ofSettings _ _ built =>
    obtain ⟨groups, notifications, -, -, rfl⟩ := ofSettings_cases built
    rfl

theorem Reactor.pending_of_initial {r : Reactor α} (h : r.Initial) : r.pending = 0 := by
  rw [(wellFormed_of_initial h).pending_eq, held_of_initial h]
  rfl

namespace Machine

/-- **At every moment of every run the counters account for all that has happened.** -/
theorem counters_account_for_history {y : System σ α} (hy : y.reactor.Initial) (host : Host σ α)
    (p : Program σ α) (n : Nat) : (start y p).Accounts host n := by
  have hm : (start y p).system.reactor.WellFormed := Reactor.wellFormed_of_initial hy
  have hcounters : ((start y p).reactorAt host 0).counters = {} := Reactor.counters_of_initial hy
  have hpending : ((start y p).reactorAt host 0).pending = 0 := Reactor.pending_of_initial hy
  induction n with
  | zero =>
    constructor
    · rw [hcounters, hpending]
      rfl
    · rw [hcounters]
      rfl
    · rw [hcounters]
      rfl
    · rw [hcounters]
      rfl
    · nofun
    · rw [hcounters]
      rfl
    · rw [hcounters]
      rfl
  | succ n ih => exact ih.succ hm

theorem counters_of_read_once :
    System.unused.reactor.Initial ∧ (start .unused .readOnce).Accounts .steady 3 ∧
      ((start .unused .readOnce).reactorAt .steady 3).counters =
        { ticks := 1, dispatched := 1, triggered := 1, registered := 1 } :=
  ⟨.empty _, counters_account_for_history (y := .unused) (.empty _) .steady .readOnce 3, rfl⟩

end Machine

end EventLoop
