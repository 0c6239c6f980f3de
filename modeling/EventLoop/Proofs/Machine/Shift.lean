import EventLoop.Proofs.Machine.Wait

/-!
# Counters do not matter

A reactor counts what it does, and looks at nothing that it has counted. So with other counts to start from, a
run is the same but for the counts. Here they are shifted by a number of ticks and of errors.

* `Host.select_shift`, `Host.register_shift`, `Host.cancel_shift` — every operation, on shifted counts.
* `step_shift` — so too every step, unless it shows the counts to someone to whom they matter
  (`Machine.Overlooks`).
* `run_shift` — and so whole runs.
-/

namespace EventLoop

variable {σ α : Type}

/-! ## Reactors -/

/-- More ticks and errors. -/
def Counters.shift (ticks errors : UInt64) (c : Counters) : Counters :=
  { c with ticks := c.ticks + ticks, errors := c.errors + errors }

variable (ticks errors : UInt64)

namespace Counters

theorem tick_shift (c : Counters) : (c.shift ticks errors).tick = c.tick.shift ticks errors := by
  simp only [tick, shift, UInt64.add_assoc, UInt64.add_comm ticks]

theorem error_shift (c : Counters) : (c.shift ticks errors).error = c.error.shift ticks errors := by
  simp only [error, shift, UInt64.add_assoc, UInt64.add_comm errors]

theorem register_shift (c : Counters) :
    (c.shift ticks errors).register = c.register.shift ticks errors := rfl

theorem cancel_shift (c : Counters) : (c.shift ticks errors).cancel = c.cancel.shift ticks errors := rfl

theorem dispatch_shift (c : Counters) (cause : Cause) :
    (c.shift ticks errors).dispatch cause = (c.dispatch cause).shift ticks errors := by
  cases cause <;> rfl

theorem shift_zero (c : Counters) : c.shift 0 0 = c := by simp [shift]

theorem error_eq_shift (c : Counters) : c.error = c.shift 0 1 := by simp [error, shift]

end Counters

namespace Reactor

/-- The reactor with shifted counts. -/
def shift (r : Reactor α) : Reactor α := r.recount (r.counters.shift ticks errors)

theorem shift_zero (r : Reactor α) : r.shift 0 0 = r := by rw [shift, Counters.shift_zero, recount]

theorem attach_shift (memory : Memory) (r : Reactor α) (g : Handle) (request : Request α)
    (due : Option Instant) :
    (r.shift ticks errors).attach memory g request due =
      (r.attach memory g request due).map fun p => (p.1, p.2.shift ticks errors) := by
  unfold attach
  rw [show (r.shift ticks errors).groups = r.groups from rfl,
    show (r.shift ticks errors).notifications = r.notifications from rfl]
  cases r.groups.get? g with
  | none => rfl
  | some group =>
    dsimp only
    split
    · rcases r.notifications.acquire memory with e | ⟨h, notifications⟩
      · rfl
      · rfl
    · rfl

theorem arm_shift (memory : Memory) (r : Reactor α) (request : Request α) (due : Option Instant) :
    (r.shift ticks errors).arm memory request due =
      ((r.arm memory request due).1, (r.arm memory request due).2.shift ticks errors) := by
  unfold arm
  rw [show (r.shift ticks errors).findGroup request.descriptor = r.findGroup request.descriptor from rfl]
  cases r.findGroup request.descriptor with
  | some g =>
    dsimp only
    rw [attach_shift]
    rcases r.attach memory g request due with e | ⟨h, r'⟩
    · rfl
    · rfl
  | none =>
    dsimp only
    rw [show (r.shift ticks errors).active = r.active from rfl,
      show (r.shift ticks errors).groups = r.groups from rfl]
    split
    · rcases r.groups.acquire memory with e | ⟨g, groups⟩
      · rfl
      · dsimp only
        have hopened := attach_shift ticks errors memory { r with
          groups := groups.modify g fun group => { group with descriptor := request.descriptor } }
          g request due
        unfold shift recount at hopened ⊢
        dsimp only at hopened ⊢
        rw [hopened]
        rcases attach memory _ g request due with e | ⟨h, r'⟩
        · rfl
        · rfl
    · rfl

theorem detach_shift (r : Reactor α) (g h : Handle) :
    (r.shift ticks errors).detach g h = (r.detach g h).shift ticks errors := by
  unfold detach
  rw [show (r.shift ticks errors).groups = r.groups from rfl]
  cases r.groups.get? g with
  | none => rfl
  | some group =>
    dsimp only
    split
    · rfl
    · rfl

theorem cancel_shift (r : Reactor α) (h : Handle) :
    (r.shift ticks errors).cancel h = ((r.cancel h).1, (r.cancel h).2.shift ticks errors) := by
  unfold cancel
  rw [show (r.shift ticks errors).notifications = r.notifications from rfl]
  cases r.notifications.get? h with
  | none => rfl
  | some n =>
    dsimp only
    cases n.place with
    | spare => rfl
    | ready => rfl
    | group g =>
      dsimp only
      rw [detach_shift]
      rfl

theorem selectIn_shift (now : Instant) (r : Reactor α) (g : Handle) (fired : Events) :
    selectIn now (r.shift ticks errors) g fired = (selectIn now r g fired).shift ticks errors := by
  unfold selectIn
  rw [show (r.shift ticks errors).groups = r.groups from rfl]
  cases r.groups.get? g with
  | none => rfl
  | some group => rfl

theorem foldl_selectIn_shift (now : Instant) (fired : List (Handle × Events)) (r : Reactor α) :
    fired.foldl (fun s p => selectIn now s p.1 p.2) (r.shift ticks errors) =
      (fired.foldl (fun s p => selectIn now s p.1 p.2) r).shift ticks errors := by
  induction fired generalizing r with
  | nil => rfl
  | cons p fired ih => rw [List.foldl_cons, List.foldl_cons, selectIn_shift, ih]

theorem firedOf_shift (r : Reactor α) (gs : List Handle) (reported : List Conditions) :
    (r.shift ticks errors).firedOf gs reported = r.firedOf gs reported := by
  induction gs generalizing reported with
  | nil => rfl
  | cons g gs ih =>
    unfold firedOf
    rw [show (r.shift ticks errors).entryOf g = r.entryOf g from rfl]
    simp only [ih]

theorem collect_shift (r : Reactor α) (reported : List Conditions) (now : Instant) :
    (r.shift ticks errors).collect reported now = (r.collect reported now).shift ticks errors := by
  unfold collect
  rw [show (r.shift ticks errors).active = r.active from rfl,
    firedOf_shift, foldl_selectIn_shift]
  rfl

theorem takeReady_shift (r : Reactor α) :
    (r.shift ticks errors).takeReady =
      r.takeReady.map fun p => (p.1, p.2.shift ticks errors) := by
  unfold takeReady
  rw [show (r.shift ticks errors).ready = r.ready from rfl,
    show (r.shift ticks errors).notifications = r.notifications from rfl]
  cases r.ready with
  | nil => rfl
  | cons h rest =>
    dsimp only
    rcases r.notifications.release h with _ | ⟨n, notifications⟩
    · rfl
    · dsimp only
      rcases n.payload with _ | ⟨callback, arg⟩
      · rfl
      · dsimp only
        rw [show (r.shift ticks errors).counters = r.counters.shift ticks errors from rfl,
          Counters.dispatch_shift]
        rfl

end Reactor

/-! ## Systems -/

/-- The system with shifted counts. -/
def System.shift (y : System σ α) : System σ α := { y with reactor := y.reactor.shift ticks errors }

namespace Host

variable (host : Host σ α) (y : System σ α)

theorem readClock_shift :
    host.readClock (y.shift ticks errors) =
      ((host.readClock y).1, (host.readClock y).2.shift ticks errors) := by
  unfold readClock
  rw [show (y.shift ticks errors).outside = y.outside from rfl]
  rcases host.now y.outside with ⟨fault | t, s⟩
  · dsimp only
    unfold countError report System.shift Reactor.shift Reactor.recount
    dsimp only
    rw [Counters.error_shift]
  · rfl

theorem dueTime_shift (timeout : Timeout) :
    host.dueTime (y.shift ticks errors) timeout =
      ((host.dueTime y timeout).1, (host.dueTime y timeout).2.shift ticks errors) := by
  unfold dueTime
  cases timeout with
  | infinite => rfl
  | after delay =>
    dsimp only
    rw [readClock_shift]
    rcases host.readClock y with ⟨e | t, z⟩
    · rfl
    · rfl

theorem register_shift (request : Request α) :
    host.register (y.shift ticks errors) request =
      ((host.register y request).1, (host.register y request).2.shift ticks errors) := by
  unfold register
  rw [dueTime_shift]
  rcases host.dueTime y request.timeout with ⟨e | due, z⟩
  · rfl
  · dsimp only
    rw [show (z.shift ticks errors).reactor = z.reactor.shift ticks errors from rfl,
      show (z.shift ticks errors).outside = z.outside from rfl, Reactor.arm_shift]
    rcases z.reactor.arm (host.memory z.outside) request due with ⟨e | h, r⟩
    · rfl
    · rfl

theorem cancel_shift (h : Handle) :
    host.cancel (y.shift ticks errors) h =
      ((host.cancel y h).1, (host.cancel y h).2.shift ticks errors) := by
  unfold cancel
  rw [show (y.shift ticks errors).reactor = y.reactor.shift ticks errors from rfl,
    Reactor.cancel_shift]
  rcases y.reactor.cancel h with ⟨e | u, r⟩
  · rfl
  · rfl

theorem remaining_shift (due : Option Instant) :
    host.remaining (y.shift ticks errors) due =
      ((host.remaining y due).1, (host.remaining y due).2.shift ticks errors) := by
  unfold remaining
  cases due with
  | none => rfl
  | some due =>
    dsimp only
    rw [readClock_shift]
    rcases host.readClock y with ⟨e | t, z⟩
    · rfl
    · rfl

theorem await_shift (entries : List PollEntry) (timeout : Option Span) :
    host.await (y.shift ticks errors) entries timeout =
      ((host.await y entries timeout).1, (host.await y entries timeout).2.shift ticks errors) := by
  unfold await
  rw [show (y.shift ticks errors).outside = y.outside from rfl,
    show (y.shift ticks errors).reactor.counters = y.reactor.counters.shift ticks errors from rfl,
    Counters.tick_shift]
  dsimp only
  rcases host.wait entries timeout _ with ⟨fault | reported, s⟩
  · dsimp only
    unfold countError report System.shift Reactor.shift Reactor.recount
    dsimp only
    rw [Counters.error_shift]
  · rfl

/-- **The first part of a tick does not depend on the counts.** -/
theorem select_shift :
    host.select (y.shift ticks errors) =
      ((host.select y).1, (host.select y).2.shift ticks errors) := by
  unfold select
  rw [show host.hasRoom (y.shift ticks errors) = host.hasRoom y from rfl]
  split
  · dsimp only
    rw [show (y.shift ticks errors).reactor.pollSet = y.reactor.pollSet from rfl,
      show host.report (Reactor.pollSetNotice (y.shift ticks errors).reactor) (y.shift ticks errors) =
        (host.report (Reactor.pollSetNotice y.reactor) y).shift ticks errors from rfl,
      show (y.shift ticks errors).reactor.earliest = y.reactor.earliest from rfl, remaining_shift]
    rcases host.remaining _ _ with ⟨e | left, y₁⟩
    · rfl
    · dsimp only
      rw [show (y₁.shift ticks errors).reactor.floor = y₁.reactor.floor from rfl, await_shift]
      rcases host.await y₁ _ _ with ⟨e | reported, y₂⟩
      · rfl
      · dsimp only
        rw [readClock_shift]
        rcases host.readClock y₂ with ⟨e | now, y₃⟩
        · rfl
        · dsimp only
          rw [show (y₃.shift ticks errors).reactor = y₃.reactor.shift ticks errors from rfl,
            Reactor.collect_shift]
          rfl
  · rfl

theorem observed_shift : host.observed (y.shift ticks errors) = host.observed y := by
  unfold observed
  rw [show host.hasRoom (y.shift ticks errors) = host.hasRoom y from rfl]
  split
  · dsimp only
    rw [show (y.shift ticks errors).reactor.pollSet = y.reactor.pollSet from rfl,
      show host.report (Reactor.pollSetNotice (y.shift ticks errors).reactor) (y.shift ticks errors) =
        (host.report (Reactor.pollSetNotice y.reactor) y).shift ticks errors from rfl,
      show (y.shift ticks errors).reactor.earliest = y.reactor.earliest from rfl, remaining_shift]
    rcases host.remaining _ _ with ⟨e | left, y₁⟩
    · rfl
    · dsimp only
      rw [show (y₁.shift ticks errors).reactor.floor = y₁.reactor.floor from rfl, await_shift]
      rcases host.await y₁ _ _ with ⟨e | reported, y₂⟩
      · rfl
      · dsimp only
        rw [readClock_shift]
        rcases host.readClock y₂ with ⟨e | now, y₃⟩
        · rfl
        · rfl
  · rfl

theorem waitCall_shift : host.waitCall (y.shift ticks errors) = host.waitCall y := by
  unfold waitCall
  rw [show host.hasRoom (y.shift ticks errors) = host.hasRoom y from rfl]
  split
  · dsimp only
    rw [show host.report (Reactor.pollSetNotice (y.shift ticks errors).reactor) (y.shift ticks errors) =
        (host.report (Reactor.pollSetNotice y.reactor) y).shift ticks errors from rfl,
      readClock_shift]
    rw [show ((host.report (Reactor.pollSetNotice y.reactor) y).shift ticks errors).reactor.earliest =
      (host.report (Reactor.pollSetNotice y.reactor) y).reactor.earliest from rfl]
    cases (host.report (Reactor.pollSetNotice y.reactor) y).reactor.earliest with
    | none => rfl
    | some due =>
      rcases host.readClock _ with ⟨e | t, z⟩
      · rfl
      · rfl
  · rfl

end Host

theorem Reactor.dispatched_shift (r : Reactor α) :
    (r.shift ticks errors).dispatched = r.dispatched := by
  unfold dispatched
  rw [takeReady_shift, show (r.shift ticks errors).ready = r.ready from rfl]
  rcases r.ready with _ | ⟨h, rest⟩
  · rfl
  · rcases r.takeReady with _ | ⟨_ | e, r'⟩
    · rfl
    · rfl
    · rfl

/-! ## Steps -/

namespace Machine

/-- The machine with shifted counts. -/
def shift (m : Machine σ α) : Machine σ α := { m with system := m.system.shift ticks errors }

/-- What the next step shows of the counts makes no difference. -/
structure Overlooks (host : Host σ α) (m : Machine σ α) : Prop where
  /-- Not to a program that asks for the status, … -/
  status : ∀ next, m.control = .program (.status next) →
    next (m.system.reactor.shift ticks errors).status = next m.system.reactor.status
  /-- … and not to the one who takes the notice with which the driver loop ends. -/
  notice : ∀ made most, m.control = .driver made most → m.willTick host = false → ∀ s,
    host.notify (Driver.endNotice made (m.system.reactor.counters.shift ticks errors)) s =
      host.notify (Driver.endNotice made m.system.reactor.counters) s

section

variable (host : Host σ α) (y : System σ α) (frames : List (Frame σ α))

theorem beginTick_shift :
    beginTick host (y.shift ticks errors) frames = (beginTick host y frames).shift ticks errors := by
  rw [beginTick_eq, beginTick_eq, Host.select_shift]
  rfl

theorem stepDrain_shift (served : Nat) :
    stepDrain host (y.shift ticks errors) served frames =
      (stepDrain host y served frames).shift ticks errors := by
  unfold stepDrain
  rw [show (y.shift ticks errors).reactor = y.reactor.shift ticks errors from rfl,
    Reactor.takeReady_shift]
  rcases y.reactor.takeReady with _ | ⟨_ | e, r⟩
  · rfl
  · rfl
  · rfl

theorem endDrive_shift {made : Nat} (hnotice : ∀ s,
      host.notify (Driver.endNotice made (y.reactor.counters.shift ticks errors)) s =
        host.notify (Driver.endNotice made y.reactor.counters) s) :
    endDrive host (y.shift ticks errors) made frames =
      (endDrive host y made frames).shift ticks errors := by
  unfold endDrive Host.report
  rw [show (y.shift ticks errors).reactor.counters = y.reactor.counters.shift ticks errors from rfl,
    hnotice]
  rfl

theorem stepDriver_shift (made : Nat) (most : Option UInt64)
    (hnotice : (!host.stopped y.outside && !isLimit made most) = false → ∀ s,
      host.notify (Driver.endNotice made (y.reactor.counters.shift ticks errors)) s =
        host.notify (Driver.endNotice made y.reactor.counters) s) :
    stepDriver host (y.shift ticks errors) made most frames =
      (stepDriver host y made most frames).shift ticks errors := by
  unfold stepDriver
  rw [show (y.shift ticks errors).outside = y.outside from rfl]
  split
  · next hstop => exact endDrive_shift ticks errors host y frames (hnotice (by simp [hstop]))
  · split
    · next hlimit =>
      exact endDrive_shift ticks errors host (host.report (Driver.limitNotice made) y) frames
        (hnotice (by simp [hlimit]))
    · exact beginTick_shift ticks errors host y _

end

variable {ticks errors} {host : Host σ α} {m : Machine σ α}

/-- **A step does not depend on the counts, unless it shows them.** -/
theorem step_shift (ho : m.Overlooks ticks errors host) :
    (m.shift ticks errors).step host = (m.step host).map (shift ticks errors) := by
  unfold step
  rw [show (m.shift ticks errors).control = m.control from rfl]
  cases hc : m.control with
  | program p =>
    cases p with
    | done =>
      rcases hf : m.frames with _ | ⟨_ | _ | _, frames⟩ <;> simp [stepProgram, shift, hf]
    | outside act next => rfl
    | register request next =>
      dsimp only [stepProgram, shift]
      rw [Host.register_shift]
      rfl
    | cancel h next =>
      dsimp only [stepProgram, shift]
      rw [Host.cancel_shift]
      rfl
    | isPending h next => rfl
    | lookup d callback next => rfl
    | status next =>
      dsimp only [stepProgram]
      rw [show (m.shift ticks errors).system.reactor = m.system.reactor.shift ticks errors from rfl,
        ho.status next hc]
      rfl
    | tick next => exact congrArg some (beginTick_shift ticks errors host m.system _)
    | drive maxTicks next => rfl
  | drain served => exact congrArg some (stepDrain_shift ticks errors host m.system m.frames served)
  | driver made most =>
    refine congrArg some (stepDriver_shift ticks errors host m.system m.frames made most fun hw => ?_)
    refine ho.notice made most hc ?_
    unfold willTick
    rwa [hc]
  | answer result =>
    dsimp only
    rw [show (m.shift ticks errors).frames = m.frames from rfl]
    rcases m.frames with _ | ⟨next | served | ⟨made, most⟩, frames⟩
    · rfl
    · rfl
    · rfl
    · rcases result with e | c
      · cases e <;> rfl
      · rfl

theorem occurrence_shift (ticks errors : UInt64) (host : Host σ α) (m : Machine σ α) :
    (m.shift ticks errors).occurrence host = m.occurrence host := by
  unfold occurrence
  rw [show (m.shift ticks errors).control = m.control from rfl,
    show (m.shift ticks errors).system = m.system.shift ticks errors from rfl,
    show (m.shift ticks errors).willTick host = m.willTick host from rfl]
  unfold Host.registration Host.withdrawal Host.selection
  simp only [Host.register_shift, Host.dueTime_shift, Host.cancel_shift, Host.observed_shift,
    show (m.system.shift ticks errors).reactor = m.system.reactor.shift ticks errors from rfl,
    Reactor.dispatched_shift]

/-- A tick shows the counts to nobody. -/
theorem overlooks_of_tick (ht : (m.begins host || m.isDraining) = true) :
    m.Overlooks ticks errors host where
  status next hc := by
    rw [begins, isDraining, hc] at ht
    cases ht
  notice made most hc hw := by
    rw [begins, isDraining, hc] at ht
    dsimp only at ht
    rw [hw] at ht
    cases ht

theorem tickAnswer_shift (ticks errors : UInt64) (host : Host σ α) (m : Machine σ α) :
    (m.shift ticks errors).tickAnswer host = m.tickAnswer host := by
  unfold tickAnswer
  rw [show (m.shift ticks errors).begins host = m.begins host from rfl,
    show (m.shift ticks errors).isDraining = m.isDraining from rfl]
  split
  · next ht =>
    rw [step_shift (overlooks_of_tick ht), Option.map_map]
    rfl
  · rfl

/-! ## Runs -/

/-- **A run does not depend on the counts, as long as it does not show them.** -/
theorem run_shift {n : Nat} (ho : ∀ k < n, (m.run host k).Overlooks ticks errors host) :
    (m.shift ticks errors).run host n = (m.run host n).shift ticks errors := by
  induction n with
  | zero => rfl
  | succ n ih =>
    rw [run_succ, run_succ, ih fun k hk => ho k (Nat.lt_succ_of_lt hk),
      step_shift (ho n (Nat.lt_succ_self n))]
    cases (m.run host n).step host with
    | none => rfl
    | some m' => rfl

end Machine

end EventLoop
