import EventLoop.Proofs.Machine.Transcript
import EventLoop.Proofs.Reactor.Ahead
import EventLoop.Proofs.Machine.Wait

/-!
# Runs in later time

Only the differences between instants matter. With a clock that is ahead by a fixed span, a run is the same
run: it reads the clock as often, waits for the same and for as long, answers the same and invokes the same.
This holds as long as no sum reaches the latest instant, and if the surroundings do not read the notices,
which show instants.

* `Host.ahead` — the surroundings with the other clock.
* `Host.register_ahead`, `Host.select_ahead` — the operations of a system.
* `Machine.step_ahead`, `Machine.run_ahead` — steps and runs.
* `same_in_later_time` — what is the same in the two runs.
-/

namespace EventLoop

variable {σ α : Type}

/-- The surroundings with a clock that is ahead by a span. -/
def Host.ahead (c : Span) (host : Host σ α) : Host σ α :=
  { host with now := fun s => ((host.now s).1.map (Instant.ahead c), (host.now s).2) }

/-- What a notice says makes no difference to the surroundings. -/
def Host.Unread (host : Host σ α) : Prop :=
  ∀ (n n' : Notice) s, n.level = n'.level → n.target = n'.target → host.notify n s = host.notify n' s

/-- The exchange with a clock that is ahead by a span. -/
def Exchange.ahead (c : Span) : Exchange → Exchange
  | clock answer => clock (answer.map (Instant.ahead c))
  | wait entries bound answer => wait entries bound answer

/-- Can a span and a delay be added to what the clock shows? -/
def Exchange.Fits (c delay : Span) : Exchange → Prop
  | clock (.ok t) => t.toNanos + c.toNanos + delay.toNanos ≤ Instant.latest.toNanos
  | _ => True

instance (c delay : Span) : (x : Exchange) → Decidable (x.Fits c delay)
  | .clock (.ok t) => inferInstanceAs (Decidable (t.toNanos + c.toNanos + delay.toNanos ≤ _))
  | .clock (.error _) => .isTrue trivial
  | .wait _ _ _ => .isTrue trivial

/-- The system in later time. -/
def System.ahead (c : Span) (y : System σ α) : System σ α := { y with reactor := y.reactor.ahead c }

namespace Reactor

variable {c : Span} {r : Reactor α}

theorem fits_earliest (hw : r.WellFormed) (hr : r.Fits c) {u : Instant} (hu : r.earliest = some u) :
    u.Fits c := by
  obtain ⟨g, -, n, hn, hdue⟩ := mem_deadlines.mp (r.isEarliest_earliest.mem u hu)
  obtain ⟨h, hget, -⟩ := (mem_members hw).mp hn
  exact hr h n hget u hdue

theorem dispatched_ahead (c : Span) (r : Reactor α) : (r.ahead c).dispatched = r.dispatched := by
  unfold dispatched
  rw [takeReady_ahead, show (r.ahead c).ready = r.ready from rfl]
  rcases r.ready with _ | ⟨h, rest⟩
  · rfl
  · rcases r.takeReady with _ | ⟨_ | e, r'⟩
    · rfl
    · rfl
    · rfl

end Reactor

/-! ## The operations of a system -/

namespace Host

variable {c : Span} {host : Host σ α} {y : System σ α}

theorem report_ahead (hn : host.Unread) (y : System σ α) (level : Level) (text text' : String) :
    (host.ahead c).report (Reactor.notice level text') (y.ahead c) =
      (host.report (Reactor.notice level text) y).ahead c := by
  have hnotify : host.notify (Reactor.notice level text') y.outside =
      host.notify (Reactor.notice level text) y.outside := hn _ _ _ rfl rfl
  unfold report System.ahead
  dsimp only [ahead]
  rw [hnotify]

theorem readClock_ahead (c : Span) (host : Host σ α) (y : System σ α) :
    (host.ahead c).readClock (y.ahead c) =
      ((host.readClock y).1.map (Instant.ahead c), (host.readClock y).2.ahead c) := by
  unfold readClock
  dsimp only [ahead, System.ahead]
  rcases host.now y.outside with ⟨fault | t, s⟩
  · rfl
  · rfl

theorem clockExchange_ahead (c : Span) (host : Host σ α) (y : System σ α) :
    (host.ahead c).clockExchange (y.ahead c) = (host.clockExchange y).ahead c := rfl

theorem dueTime_ahead (c : Span) (host : Host σ α) (y : System σ α) (timeout : Timeout) :
    (host.ahead c).dueTime (y.ahead c) timeout =
      ((host.dueTime y timeout).1.map (Option.map (Instant.ahead c)),
        (host.dueTime y timeout).2.ahead c) := by
  unfold dueTime
  cases timeout with
  | infinite => rfl
  | after delay =>
    dsimp only
    rw [readClock_ahead]
    rcases host.readClock y with ⟨e | t, z⟩
    · rfl
    · simp only [Except.map, Option.map_some, Instant.ahead_add]

theorem dueExchanges_ahead (c : Span) (host : Host σ α) (y : System σ α) (timeout : Timeout) :
    (host.ahead c).dueExchanges (y.ahead c) timeout =
      (host.dueExchanges y timeout).map (Exchange.ahead c) := by
  cases timeout <;> rfl

/-- **A registration is the same in later time.** -/
theorem register_ahead (hn : host.Unread) (request : Request α) :
    (host.ahead c).register (y.ahead c) request =
      ((host.register y request).1, (host.register y request).2.ahead c) := by
  unfold register
  rw [dueTime_ahead]
  rcases host.dueTime y request.timeout with ⟨e | due, z⟩
  · rfl
  · simp only [Except.map]
    rw [show (z.ahead c).reactor = z.reactor.ahead c from rfl,
      show (host.ahead c).memory (z.ahead c).outside = host.memory z.outside from rfl,
      Reactor.arm_ahead]
    rcases z.reactor.arm (host.memory z.outside) request due with ⟨e | h, r⟩
    · rfl
    · exact congrArg (Except.ok h, ·) (report_ahead hn { z with reactor := r } .trace _ _)

theorem cancel_ahead (c : Span) (host : Host σ α) (y : System σ α) (h : Handle) :
    (host.ahead c).cancel (y.ahead c) h = ((host.cancel y h).1, (host.cancel y h).2.ahead c) := by
  unfold cancel
  rw [show (y.ahead c).reactor = y.reactor.ahead c from rfl, Reactor.cancel_ahead]
  rcases y.reactor.cancel h with ⟨e | u, r⟩
  · rfl
  · rfl

theorem hasRoom_ahead (c : Span) (host : Host σ α) (y : System σ α) :
    (host.ahead c).hasRoom (y.ahead c) = host.hasRoom y := by
  unfold hasRoom
  rw [show (y.ahead c).reactor = y.reactor.ahead c from rfl, Reactor.pending_ahead]
  rfl

theorem remaining_ahead {due : Option Instant} (hdue : ∀ u, due = some u → u.Fits c) :
    (host.ahead c).remaining (y.ahead c) (due.map (Instant.ahead c)) =
      ((host.remaining y due).1, (host.remaining y due).2.ahead c) := by
  unfold remaining
  cases due with
  | none => rfl
  | some u =>
    simp only [Option.map_some]
    rw [readClock_ahead]
    rcases host.readClock y with ⟨e | t, z⟩
    · rfl
    · simp only [Except.map, Instant.since_ahead (hdue u rfl)]

theorem leftExchanges_ahead (c : Span) (host : Host σ α) (y : System σ α) (due : Option Instant) :
    (host.ahead c).leftExchanges (y.ahead c) (due.map (Instant.ahead c)) =
      (host.leftExchanges y due).map (Exchange.ahead c) := by
  cases due <;> rfl

theorem await_ahead (c : Span) (host : Host σ α) (y : System σ α) (entries : List PollEntry)
    (bound : Option Span) :
    (host.ahead c).await (y.ahead c) entries bound =
      ((host.await y entries bound).1, (host.await y entries bound).2.ahead c) := by
  unfold await
  dsimp only [ahead, System.ahead]
  rcases host.wait entries bound _ with ⟨fault | reported, s⟩
  · rfl
  · rfl

theorem waitExchange_ahead (c : Span) (host : Host σ α) (y : System σ α) (entries : List PollEntry)
    (bound : Option Span) :
    (host.ahead c).waitExchange (y.ahead c) entries bound =
      (host.waitExchange y entries bound).ahead c := rfl

theorem clockExchange_of_ok {t : Instant} {z : System σ α} (h : host.readClock y = (.ok t, z)) :
    host.clockExchange y = .clock (.ok t) := by
  unfold readClock at h
  unfold clockExchange
  split at h
  · next hnow =>
    cases h
    rw [hnow]
  · cases h

/-- **The first part of a tick is the same in later time**, and so is what it asks. -/
theorem select_ahead (hn : host.Unread) (hw : y.reactor.WellFormed) (hr : y.reactor.Fits c)
    (hnow : ∀ t, .clock (.ok t) ∈ host.tickExchanges y → t.Fits c) :
    (host.ahead c).select (y.ahead c) = ((host.select y).1, (host.select y).2.ahead c) ∧
      (host.ahead c).tickExchanges (y.ahead c) = (host.tickExchanges y).map (Exchange.ahead c) := by
  unfold select tickExchanges at *
  rw [hasRoom_ahead]
  split
  · next hroom =>
    rw [if_pos hroom] at hnow
    have hreport : (host.ahead c).report (Reactor.pollSetNotice (y.ahead c).reactor) (y.ahead c) =
        (host.report (Reactor.pollSetNotice y.reactor) y).ahead c :=
      report_ahead hn y .trace _ _
    dsimp only at hnow ⊢
    rw [hreport, show (y.ahead c).reactor = y.reactor.ahead c from rfl, Reactor.pollSet_ahead,
      Reactor.earliest_ahead, leftExchanges_ahead,
      remaining_ahead fun u hu => Reactor.fits_earliest hw hr hu]
    obtain ⟨k₁, hk₁⟩ := host.remaining_reactor (host.report (Reactor.pollSetNotice y.reactor) y)
      y.reactor.earliest
    generalize host.remaining _ y.reactor.earliest = answered at hnow hk₁ ⊢
    obtain ⟨e | left, y₁⟩ := answered
    · simp
    · dsimp only at hnow hk₁ ⊢
      rw [show (y₁.ahead c).reactor.floor = y₁.reactor.floor from rfl, await_ahead, waitExchange_ahead]
      generalize waitBound left (!y.reactor.pollSet.isEmpty) y₁.reactor.floor = bound at hnow ⊢
      obtain ⟨k₂, hk₂⟩ := host.await_reactor y₁ y.reactor.pollSet bound
      generalize host.await y₁ y.reactor.pollSet bound = answered at hnow hk₂ ⊢
      obtain ⟨e | reported, y₂⟩ := answered
      · simp
      · dsimp only at hnow hk₂ ⊢
        obtain ⟨k₃, hk₃⟩ := host.readClock_reactor y₂
        rw [readClock_ahead, clockExchange_ahead]
        rcases hread : host.readClock y₂ with ⟨e | now, y₃⟩
        · simp [Except.map]
        · -- only the counters have changed since, so the deadlines are those of before
          rw [hread] at hk₃
          have hy₃ : y₃.reactor.Fits c := by
            rw [show y₃.reactor = _ from hk₃, hk₂, hk₁]
            exact hr
          have hfits : now.Fits c := hnow now (by simp [clockExchange_of_ok hread])
          simp only [Except.map]
          rw [show (y₃.ahead c).reactor = y₃.reactor.ahead c from rfl,
            Reactor.collect_ahead hfits hy₃]
          simp [System.ahead]
  · simp

end Host

/-! ## Steps -/

namespace Machine

/-- The machine in later time. -/
def ahead (c : Span) (m : Machine σ α) : Machine σ α := { m with system := m.system.ahead c }

/-- The delay that the next step adds to what the clock shows. -/
def delay (m : Machine σ α) : Span :=
  match m.control with
  | .program (.register request _) => request.timeout.delay?.getD .zero
  | _ => .zero

/-- Whatever the clock shows at the next step, a span and the delay can be added to it. -/
def Fits (c : Span) (host : Host σ α) (m : Machine σ α) : Prop :=
  ∀ x ∈ m.exchanges host, x.Fits c m.delay

instance (c : Span) (host : Host σ α) (m : Machine σ α) : Decidable (m.Fits c host) :=
  inferInstanceAs (Decidable (∀ x ∈ m.exchanges host, x.Fits c m.delay))

variable {c : Span} {host : Host σ α} {m m' : Machine σ α}

/-- What comes with a tick that begins: the clock it reads can show a span more. -/
theorem Fits.of_begins (hf : m.Fits c host) (hb : m.begins host = true) {t : Instant}
    (ht : .clock (.ok t) ∈ host.tickExchanges m.system) : t.Fits c := by
  have hle : _ ≤ _ := hf (.clock (.ok t)) (by rwa [exchanges_of_begins hb])
  unfold Instant.Fits
  omega

theorem beginTick_ahead (hn : host.Unread) (hw : m.system.reactor.WellFormed)
    (hr : m.system.reactor.Fits c) (hf : m.Fits c host) (hb : m.begins host = true)
    (frames : List (Frame σ α)) :
    beginTick (host.ahead c) (m.system.ahead c) frames = (beginTick host m.system frames).ahead c := by
  rw [beginTick_eq, beginTick_eq, (Host.select_ahead hn hw hr fun t ht => hf.of_begins hb ht).1]
  rfl

theorem stepDrain_ahead (c : Span) (host : Host σ α) (y : System σ α) (served : Nat)
    (frames : List (Frame σ α)) :
    stepDrain (host.ahead c) (y.ahead c) served frames = (stepDrain host y served frames).ahead c := by
  unfold stepDrain
  rw [show (y.ahead c).reactor = y.reactor.ahead c from rfl, Reactor.takeReady_ahead]
  rcases y.reactor.takeReady with _ | ⟨_ | e, r⟩
  · rfl
  · rfl
  · rfl

theorem stepDriver_ahead (hn : host.Unread) (hw : m.system.reactor.WellFormed)
    (hr : m.system.reactor.Fits c) (hf : m.Fits c host) {ticks : Nat} {maxTicks : Option UInt64}
    (hc : m.control = .driver ticks maxTicks) :
    stepDriver (host.ahead c) (m.system.ahead c) ticks maxTicks m.frames =
      (stepDriver host m.system ticks maxTicks m.frames).ahead c := by
  unfold stepDriver
  rw [show (host.ahead c).stopped (m.system.ahead c).outside = host.stopped m.system.outside from rfl]
  split
  · rfl
  · next hstop =>
    split
    · rfl
    · next hlimit => exact beginTick_ahead hn hw hr hf (by simp [begins, willTick, hc, hstop, hlimit]) _

/-- **A step is the same in later time.** -/
theorem step_ahead (hn : host.Unread) (hw : m.system.reactor.WellFormed)
    (hr : m.system.reactor.Fits c) (hf : m.Fits c host) :
    (m.ahead c).step (host.ahead c) = (m.step host).map (ahead c) := by
  unfold step
  rw [show (m.ahead c).control = m.control from rfl]
  cases hc : m.control with
  | program p =>
    cases p with
    | done =>
      rcases hframes : m.frames with _ | ⟨_ | _ | _, frames⟩ <;> simp [stepProgram, ahead, hframes]
    | outside act next => rfl
    | register request next =>
      dsimp only [stepProgram, ahead]
      rw [Host.register_ahead hn]
      rfl
    | cancel h next =>
      dsimp only [stepProgram, ahead]
      rw [Host.cancel_ahead]
      rfl
    | isPending h next =>
      dsimp only [stepProgram]
      rw [show (m.ahead c).system.reactor = m.system.reactor.ahead c from rfl, Reactor.isPending_ahead]
      rfl
    | lookup d callback next =>
      dsimp only [stepProgram]
      rw [show (m.ahead c).system.reactor = m.system.reactor.ahead c from rfl, Reactor.lookup_ahead]
      rfl
    | status next =>
      dsimp only [stepProgram]
      rw [show (m.ahead c).system.reactor = m.system.reactor.ahead c from rfl, Reactor.status_ahead]
      rfl
    | tick next => exact congrArg some (beginTick_ahead hn hw hr hf (by simp [begins, hc]) _)
    | drive maxTicks next => rfl
  | drain served => exact congrArg some (stepDrain_ahead c host m.system served m.frames)
  | driver ticks maxTicks => exact congrArg some (stepDriver_ahead hn hw hr hf hc)
  | answer result =>
    dsimp only
    rw [show (m.ahead c).frames = m.frames from rfl]
    rcases m.frames with _ | ⟨next | served | ⟨ticks, maxTicks⟩, frames⟩
    · rfl
    · rfl
    · rfl
    · rcases result with e | n
      · cases e <;> rfl
      · rfl

theorem willTick_ahead (c : Span) (host : Host σ α) (m : Machine σ α) :
    (m.ahead c).willTick (host.ahead c) = m.willTick host := rfl

/-- A step asks the same in later time, and the clock shows a span more. -/
theorem exchanges_ahead (hn : host.Unread) (hw : m.system.reactor.WellFormed)
    (hr : m.system.reactor.Fits c) (hf : m.Fits c host) :
    (m.ahead c).exchanges (host.ahead c) = (m.exchanges host).map (Exchange.ahead c) := by
  by_cases hb : m.begins host = true
  · have hb' : (m.ahead c).begins (host.ahead c) = true := hb
    rw [exchanges_of_begins hb, exchanges_of_begins hb']
    exact (Host.select_ahead hn hw hr fun t ht => hf.of_begins hb ht).2
  · -- outside of ticks only a registration asks anything
    unfold begins at hb
    unfold exchanges
    rw [show (m.ahead c).control = m.control from rfl, willTick_ahead]
    cases hc : m.control with
    | program p =>
      rw [hc] at hb
      cases p <;> first | rfl | exact absurd rfl hb | exact Host.dueExchanges_ahead c host m.system _
    | drain served => rfl
    | driver ticks maxTicks =>
      rw [hc] at hb
      dsimp only at hb ⊢
      rw [if_neg hb, if_neg hb]
      rfl
    | answer result => rfl

/-- What a step answers is the same in later time. -/
theorem answer_ahead (hn : host.Unread) (c : Span) (m : Machine σ α) :
    (m.ahead c).answer (host.ahead c) = m.answer host := by
  unfold answer
  rw [show (m.ahead c).control = m.control from rfl,
    show (m.ahead c).system = m.system.ahead c from rfl]
  simp only [Host.register_ahead hn, Host.cancel_ahead,
    show (m.system.ahead c).reactor = m.system.reactor.ahead c from rfl, Reactor.isPending_ahead,
    Reactor.lookup_ahead, Reactor.status_ahead]

/-- Only a look at the ready queue invokes a callback. -/
theorem invoked_eq (host : Host σ α) (m : Machine σ α) :
    (m.occurrence host).bind Occurrence.invoked? =
      match m.control with
      | .drain _ => m.system.reactor.dispatched.bind Occurrence.invoked?
      | _ => none := by
  cases ho : (m.occurrence host).bind Occurrence.invoked? with
  | some i =>
    obtain ⟨o, hoccurs, hi⟩ := Option.bind_eq_some_iff.mp ho
    cases o with
    | invoked h e =>
      obtain ⟨served, rest, r, hc, -, -⟩ := exists_drain_of_occurrence hoccurs
      rw [hc]
      simp only [occurrence, hc] at hoccurs
      rw [hoccurs]
      exact hi.symm
    | _ => cases hi
  | none =>
    split
    · next served hc =>
      simp only [occurrence, hc] at ho
      exact ho.symm
    · rfl

theorem invoked_ahead (c : Span) (host : Host σ α) (m : Machine σ α) :
    ((m.ahead c).occurrence (host.ahead c)).bind Occurrence.invoked? =
      (m.occurrence host).bind Occurrence.invoked? := by
  rw [invoked_eq, invoked_eq, show (m.ahead c).control = m.control from rfl,
    show (m.ahead c).system.reactor = m.system.reactor.ahead c from rfl, Reactor.dispatched_ahead]

/-- When a registration reads the clock, its deadline can be a span later. -/
theorem Fits.of_registered (hf : m.Fits c host) {h : Handle} {request : Request α}
    {due : Option Instant} (ho : m.occurrence host = some (.registered h request due)) {u : Instant}
    (hu : due = some u) : u.Fits c := by
  obtain ⟨next, hc, -, hdue⟩ := exists_register_of_occurrence ho
  unfold Host.dueTime at hdue
  cases htimeout : request.timeout with
  | infinite =>
    rw [htimeout] at hdue
    cases hdue
    cases hu
  | after delay =>
    rw [htimeout] at hdue
    dsimp only at hdue
    split at hdue
    · next t y hread =>
      cases hdue
      cases hu
      have hle : _ ≤ _ := hf (.clock (.ok t)) (by
        simp [exchanges, hc, htimeout, Host.dueExchanges, Host.clockExchange_of_ok hread])
      simp only [Machine.delay, hc, htimeout, Timeout.delay?, Option.getD_some] at hle
      unfold Instant.Fits
      rw [Instant.toNanos_add]
      omega
    · cases hdue

/-! ## Runs -/

theorem fits_reactorAt (hm : m.system.reactor.WellFormed) (hr : m.system.reactor.Fits c) {n : Nat}
    (hf : ∀ k < n, (m.run host k).Fits c host) : (m.reactorAt host n).Fits c := by
  induction n with
  | zero => exact hr
  | succ n ih =>
    refine (effect_at host hm n).fits (ih fun k hk => hf k (Nat.lt_succ_of_lt hk)) ?_
    exact fun h request due ho u hu => (hf n (Nat.lt_succ_self n)).of_registered ho hu

/-- **A run is the same in later time.** -/
theorem run_ahead (hn : host.Unread) (hm : m.system.reactor.WellFormed) (hr : m.system.reactor.Fits c)
    {n : Nat} (hf : ∀ k < n, (m.run host k).Fits c host) :
    (m.ahead c).run (host.ahead c) n = (m.run host n).ahead c := by
  induction n with
  | zero => rfl
  | succ n ih =>
    have hbefore : ∀ k < n, (m.run host k).Fits c host := fun k hk => hf k (Nat.lt_succ_of_lt hk)
    rw [run_succ, run_succ, ih hbefore, step_ahead hn (wellFormed_reactorAt host hm n)
      (fits_reactorAt hm hr hbefore) (hf n (Nat.lt_succ_self n))]
    cases (m.run host n).step host with
    | none => rfl
    | some m' => rfl

theorem transcript_ahead (hn : host.Unread) (hm : m.system.reactor.WellFormed)
    (hr : m.system.reactor.Fits c) {n : Nat} (hf : ∀ k < n, (m.run host k).Fits c host) :
    (m.ahead c).transcript (host.ahead c) n = (m.transcript host n).map (Exchange.ahead c) := by
  induction n with
  | zero => rfl
  | succ n ih =>
    have hbefore : ∀ k < n, (m.run host k).Fits c host := fun k hk => hf k (Nat.lt_succ_of_lt hk)
    rw [transcript_succ, transcript_succ, ih hbefore, run_ahead hn hm hr hbefore,
      exchanges_ahead hn (wellFormed_reactorAt host hm n) (fits_reactorAt hm hr hbefore)
        (hf n (Nat.lt_succ_self n)), List.map_append]

theorem invocations_ahead (hn : host.Unread) (hm : m.system.reactor.WellFormed)
    (hr : m.system.reactor.Fits c) {n : Nat} (hf : ∀ k < n, (m.run host k).Fits c host) :
    (m.ahead c).invocations (host.ahead c) n = m.invocations host n := by
  refine List.filterMap_congr fun k hk => ?_
  have hbefore : ∀ j < k, (m.run host j).Fits c host := fun j hj =>
    hf j (Nat.lt_trans hj (List.mem_range.mp hk))
  unfold invokedAt occurrenceAt
  rw [run_ahead hn hm hr hbefore, invoked_ahead]

/-- What is the same in a number of steps of two runs, of which the second has a clock that is ahead of the
first by a span. -/
structure SameLater (c : Span) (host : Host σ α) (m : Machine σ α) (n : Nat) : Prop where
  /-- The same is asked of the surroundings and answered, except that the clock shows a span more. -/
  transcript : m.transcript (host.ahead c) n = (m.transcript host n).map (Exchange.ahead c)
  /-- Every call is answered in the same way. -/
  answers : ∀ k < n, m.answerAt (host.ahead c) k = m.answerAt host k
  /-- The same callbacks are invoked at the same steps with the same events. -/
  invocations : m.invocations (host.ahead c) n = m.invocations host n
  /-- The surroundings are the same, and so is what goes on. -/
  outside : (m.run (host.ahead c) n).system.outside = (m.run host n).system.outside
  control : (m.run (host.ahead c) n).control = (m.run host n).control
  frames : (m.run (host.ahead c) n).frames = (m.run host n).frames
  status : (m.reactorAt (host.ahead c) n).status = (m.reactorAt host n).status

/-- **Only the differences between instants matter.** -/
theorem same_in_later_time {y : System σ α} (hy : y.reactor.Initial) {host : Host σ α}
    (hn : host.Unread) (c : Span) (p : Program σ α) (n : Nat)
    (hf : ∀ k < n, ((start y p).run host k).Fits c host) : (start y p).SameLater c host n := by
  have hm : (start y p).system.reactor.WellFormed := Reactor.wellFormed_of_initial hy
  have hr : (start y p).system.reactor.Fits c := Reactor.fits_of_initial hy c
  -- a new reactor holds no deadline, so it is the same in later time
  have hstart : (start y p).ahead c = start y p := by
    unfold ahead start System.ahead
    dsimp only
    rw [Reactor.ahead_of_initial hy]
  have hrun : ∀ k ≤ n, (start y p).run (host.ahead c) k = ((start y p).run host k).ahead c := by
    intro k hk
    have h := run_ahead hn hm hr fun j hj => hf j (Nat.lt_of_lt_of_le hj hk)
    rwa [hstart] at h
  have htranscript := transcript_ahead hn hm hr hf
  have hinvocations := invocations_ahead hn hm hr hf
  rw [hstart] at htranscript hinvocations
  refine ⟨htranscript, fun k hk => ?_, hinvocations, ?_, ?_, ?_, ?_⟩
  · unfold answerAt
    rw [hrun k (Nat.le_of_lt hk), answer_ahead hn]
  · rw [hrun n (Nat.le_refl n)]
    rfl
  · rw [hrun n (Nat.le_refl n)]
    rfl
  · rw [hrun n (Nat.le_refl n)]
    rfl
  · unfold reactorAt
    rw [hrun n (Nat.le_refl n)]
    exact Reactor.status_ahead c _

theorem steady_unread : Host.steady.Unread := fun _ _ _ _ _ => rfl

theorem wakes_as_long_later :
    System.unused.reactor.Initial ∧ Host.steady.Unread ∧
      (∀ k < 8, ((start .unused .readOrWake).run .steady k).Fits (.ofSecs 1) .steady) ∧
      (start .unused .readOrWake).SameLater (.ofSecs 1) .steady 8 := by
  have hfits : ∀ k < 8, ((start .unused .readOrWake).run .steady k).Fits (.ofSecs 1) .steady := by
    decide
  exact ⟨.empty _, steady_unread, hfits,
    same_in_later_time (y := .unused) (.empty _) steady_unread (.ofSecs 1) .readOrWake 8 hfits⟩

end Machine

end EventLoop
