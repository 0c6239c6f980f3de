import EventLoop.Proofs.Machine.Nesting

/-!
# What passes between a machine and its surroundings

A reactor asks its surroundings two things: what time it is, and which conditions hold after a wait. The
transcript of a run is what they were asked and what they answered, in order. It is taken by surroundings
that write it down (`Host.noting`) and are otherwise the same.

* `Host.beside` — surroundings with something beside that takes note.
* `Machine.transcript` — the transcript of a number of steps.
* `Machine.exchanges` — what the next step adds to it.
* `Machine.move_of_step` — a step makes one call of the reactor, or leaves it alone and asks nothing.
* `step_noting`, `run_noting` — writing down changes nothing else.
* `transcript_succ` — the transcript grows by the exchanges of each step.
* `Machine.answer` — what the reactor in turn answers to the program that calls it.
-/

namespace EventLoop

variable {σ α : Type}

/-- A question to the surroundings, with their answer. -/
inductive Exchange where
  | clock (answer : Except Fault Instant)
  | wait (entries : List PollEntry) (bound : Option Span) (answer : Except Fault (List Conditions))

/-! ## Surroundings with something beside -/

/-- The surroundings with something beside that takes note of what they are asked and answer. Callbacks
have both at their disposal. -/
def Host.beside {τ : Type} (host : Host σ α) (note : τ → Exchange → τ)
    (callback : Callback → Event α → Program (σ × τ) α) : Host (σ × τ) α where
  memory s := host.memory s.1
  now s := ((host.now s.1).1, (host.now s.1).2, note s.2 (.clock (host.now s.1).1))
  wait entries bound s :=
    ((host.wait entries bound s.1).1, (host.wait entries bound s.1).2,
      note s.2 (.wait entries bound (host.wait entries bound s.1).1))
  notify n s := (host.notify n s.1, s.2)
  stopped s := host.stopped s.1
  callback := callback

/-- The system with something beside. -/
def System.beside {τ : Type} (y : System σ α) (t : τ) : System (σ × τ) α :=
  { reactor := y.reactor, outside := (y.outside, t) }

/-! ## The exchanges of an operation -/

namespace Host

variable (host : Host σ α) (y : System σ α)

/-- A look at the clock. -/
def clockExchange : Exchange := .clock (host.now y.outside).1

/-- What a registration asks. -/
def dueExchanges : Timeout → List Exchange
  | .infinite => []
  | .after _ => [host.clockExchange y]

/-- What a tick asks before it waits. -/
def leftExchanges : Option Instant → List Exchange
  | none => []
  | some _ => [host.clockExchange y]

/-- The wait of a tick. -/
def waitExchange (entries : List PollEntry) (bound : Option Span) : Exchange :=
  .wait entries bound
    (host.wait entries bound (host.notify (Reactor.waitingNotice entries bound) y.outside)).1

/-- What a tick asks, as far as it gets. -/
def tickExchanges : List Exchange :=
  if host.hasRoom y then
    let entries := y.reactor.pollSet
    let y₀ := host.report (Reactor.pollSetNotice y.reactor) y
    host.leftExchanges y₀ y.reactor.earliest ++
      match host.remaining y₀ y.reactor.earliest with
      | (.error _, _) => []
      | (.ok left, y₁) =>
        let bound := waitBound left (!entries.isEmpty) y₁.reactor.floor
        host.waitExchange y₁ entries bound ::
          match host.await y₁ entries bound with
          | (.error _, _) => []
          | (.ok _, y₂) => [host.clockExchange y₂]
  else []

section

variable {τ : Type} (note : τ → Exchange → τ) (callback : Callback → Event α → Program (σ × τ) α) (t : τ)

theorem readClock_beside :
    (host.beside note callback).readClock (y.beside t) =
      ((host.readClock y).1, (host.readClock y).2.beside (note t (host.clockExchange y))) := by
  unfold readClock clockExchange
  dsimp only [beside, System.beside]
  rcases host.now y.outside with ⟨fault | now, s⟩
  · rfl
  · rfl

theorem dueTime_beside (timeout : Timeout) :
    (host.beside note callback).dueTime (y.beside t) timeout =
      ((host.dueTime y timeout).1,
        (host.dueTime y timeout).2.beside ((host.dueExchanges y timeout).foldl note t)) := by
  unfold dueTime dueExchanges
  cases timeout with
  | infinite => rfl
  | after delay =>
    dsimp only
    rw [readClock_beside]
    rcases host.readClock y with ⟨e | now, z⟩
    · rfl
    · rfl

theorem register_beside (request : Request α) :
    (host.beside note callback).register (y.beside t) request =
      ((host.register y request).1,
        (host.register y request).2.beside ((host.dueExchanges y request.timeout).foldl note t)) := by
  unfold register
  rw [dueTime_beside]
  rcases host.dueTime y request.timeout with ⟨e | due, z⟩
  · rfl
  · dsimp only [System.beside, beside]
    rcases z.reactor.arm (host.memory z.outside) request due with ⟨e | h, r⟩
    · rfl
    · rfl

theorem cancel_beside (h : Handle) :
    (host.beside note callback).cancel (y.beside t) h =
      ((host.cancel y h).1, (host.cancel y h).2.beside t) := by
  unfold cancel
  dsimp only [System.beside]
  rcases y.reactor.cancel h with ⟨e | u, r⟩
  · rfl
  · rfl

theorem remaining_beside (due : Option Instant) :
    (host.beside note callback).remaining (y.beside t) due =
      ((host.remaining y due).1, (host.remaining y due).2.beside ((host.leftExchanges y due).foldl note t)) := by
  unfold remaining leftExchanges
  cases due with
  | none => rfl
  | some due =>
    dsimp only
    rw [readClock_beside]
    rcases host.readClock y with ⟨e | now, z⟩
    · rfl
    · rfl

theorem await_beside (entries : List PollEntry) (bound : Option Span) :
    (host.beside note callback).await (y.beside t) entries bound =
      ((host.await y entries bound).1,
        (host.await y entries bound).2.beside (note t (host.waitExchange y entries bound))) := by
  unfold await waitExchange
  dsimp only [beside, System.beside]
  rcases host.wait entries bound _ with ⟨fault | reported, s⟩
  · rfl
  · rfl

/-- **A tick asks what `tickExchanges` says.** -/
theorem select_beside :
    (host.beside note callback).select (y.beside t) =
      ((host.select y).1, (host.select y).2.beside ((host.tickExchanges y).foldl note t)) := by
  unfold select tickExchanges
  rw [show (host.beside note callback).hasRoom (y.beside t) = host.hasRoom y from rfl]
  split
  · dsimp only
    rw [show (y.beside t).reactor = y.reactor from rfl,
      show (host.beside note callback).report (Reactor.pollSetNotice y.reactor) (y.beside t) =
        (host.report (Reactor.pollSetNotice y.reactor) y).beside t from rfl, remaining_beside]
    rcases host.remaining _ _ with ⟨e | left, y₁⟩
    · simp
    · dsimp only
      rw [show (y₁.beside (List.foldl note t _)).reactor = y₁.reactor from rfl, await_beside]
      rcases host.await y₁ _ _ with ⟨e | reported, y₂⟩
      · simp
      · dsimp only
        rw [readClock_beside]
        rcases host.readClock y₂ with ⟨e | now, y₃⟩
        · simp
        · simp [System.beside]
  · rfl

end

end Host

/-! ## Surroundings that write down -/

/-- The program in surroundings that also hold a transcript, which it neither sees nor changes. -/
def Program.noting : Program σ α → Program (σ × List Exchange) α
  | done => done
  | outside act next => outside (fun s => (act s.1, s.2)) fun s => (next s.1).noting
  | register request next => register request fun r => (next r).noting
  | cancel h next => cancel h fun r => (next r).noting
  | isPending h next => isPending h fun r => (next r).noting
  | lookup d callback next => lookup d callback fun r => (next r).noting
  | status next => status fun r => (next r).noting
  | tick next => tick fun r => (next r).noting
  | drive maxTicks next => drive maxTicks fun r => (next r).noting

/-- The surroundings, which also write down what they are asked and what they answer. -/
def Host.noting (host : Host σ α) : Host (σ × List Exchange) α :=
  host.beside (fun l x => l ++ [x]) fun c e => (host.callback c e).noting

theorem foldl_append_singleton {β : Type} (l l' : List β) :
    l'.foldl (fun l x => l ++ [x]) l = l ++ l' := by
  induction l' generalizing l with
  | nil => exact (List.append_nil l).symm
  | cons x l' ih => rw [List.foldl_cons, ih, List.append_assoc, List.singleton_append]

/-- What is suspended, in surroundings that also hold a transcript. -/
def Frame.noting : Frame σ α → Frame (σ × List Exchange) α
  | .caller next => .caller fun r => (next r).noting
  | .drain served => .drain served
  | .driver ticks maxTicks => .driver ticks maxTicks

/-- What happens next, in surroundings that also hold a transcript. -/
def Control.noting : Control σ α → Control (σ × List Exchange) α
  | .program p => .program p.noting
  | .drain served => .drain served
  | .driver ticks maxTicks => .driver ticks maxTicks
  | .answer result => .answer result

namespace Machine

/-- The machine with a transcript. -/
def noting (m : Machine σ α) (l : List Exchange) : Machine (σ × List Exchange) α :=
  { system := m.system.beside l, control := m.control.noting, frames := m.frames.map Frame.noting }

/-- What the next step asks of the surroundings, with their answers. -/
def exchanges (host : Host σ α) (m : Machine σ α) : List Exchange :=
  match m.control with
  | .program (.register request _) => host.dueExchanges m.system request.timeout
  | .program (.tick _) => host.tickExchanges m.system
  | .driver _ _ => if m.willTick host then host.tickExchanges m.system else []
  | _ => []

/-- What was asked of the surroundings in a number of steps, with their answers. -/
def transcript (host : Host σ α) (m : Machine σ α) (n : Nat) : List Exchange :=
  ((m.noting []).run host.noting n).system.outside.2

section

variable (host : Host σ α) (y : System σ α) (l : List Exchange) (frames : List (Frame σ α))

theorem beginTick_noting :
    beginTick host.noting (y.beside l) (frames.map Frame.noting) =
      (beginTick host y frames).noting (l ++ host.tickExchanges y) := by
  unfold beginTick
  rw [Host.noting, Host.select_beside, foldl_append_singleton]
  rcases host.select y with ⟨e | u, z⟩
  · rfl
  · rfl

theorem stepDrain_noting (served : Nat) :
    stepDrain host.noting (y.beside l) served (frames.map Frame.noting) =
      (stepDrain host y served frames).noting l := by
  unfold stepDrain
  dsimp only [System.beside]
  rcases y.reactor.takeReady with _ | ⟨_ | e, r⟩
  · rfl
  · rfl
  · rfl

theorem afterTick_noting (ticks : Nat) (maxTicks : Option UInt64) (result : Except ReactorError Nat) :
    afterTick host.noting (y.beside l) ticks maxTicks result (frames.map Frame.noting) =
      (afterTick host y ticks maxTicks result frames).noting l := by
  unfold afterTick
  rcases result with e | c
  · cases e <;> rfl
  · rfl

end

variable {host : Host σ α} {m m' : Machine σ α}

theorem exchanges_of_begins (hb : m.begins host = true) :
    m.exchanges host = host.tickExchanges m.system := by
  unfold begins at hb
  unfold exchanges
  split at hb
  · next next hc => rw [hc]
  · next ticks maxTicks hc => rw [hc]; exact if_pos hb
  · cases hb

theorem exchanges_of_step_eq_none (hs : m.step host = none) : m.exchanges host = [] := by
  unfold step at hs
  unfold exchanges
  cases hc : m.control with
  | program p =>
    rw [hc] at hs
    cases p <;> first | rfl | cases hs
  | drain served => rfl
  | driver ticks maxTicks =>
    rw [hc] at hs
    cases hs
  | answer result => rfl

/-- What a step does to the system. Most steps leave the reactor alone and ask nothing. -/
inductive Move (host : Host σ α) (m m' : Machine σ α) : Prop where
  | begins (hb : m.begins host = true) (system : m'.system = (host.select m.system).2)
  | register {request : Request α} {next : Except ReactorError Handle → Program σ α}
      (hc : m.control = .program (.register request next))
      (system : m'.system = (host.register m.system request).2)
  | cancel {h : Handle} {next : Except ReactorError Unit → Program σ α}
      (hc : m.control = .program (.cancel h next)) (system : m'.system = (host.cancel m.system h).2)
  | takes {served : Nat} {e : Option (Event α)} (hc : m.control = .drain served)
      (ht : m.system.reactor.takeReady = some (e, m'.system.reactor))
  | rests (reactor : m'.system.reactor = m.system.reactor) (occurrence : m.occurrence host = none)
      (exchanges : m.exchanges host = [])

/-- **Every step is one of these.** -/
theorem move_of_step (hs : m.step host = some m') : Move host m m' := by
  by_cases hb : m.begins host = true
  · obtain ⟨m'', hs', hy⟩ := system_of_begins hb
    rw [hs] at hs'
    cases hs'
    exact .begins hb hy
  -- for the steps that leave the reactor alone, whose control the case tells
  have hrests : m'.system.reactor = m.system.reactor → m.occurrence host = none →
      m.exchanges host = [] → Move host m m' := .rests
  unfold step at hs
  unfold occurrence exchanges at hrests
  cases hc : m.control with
  | program p =>
    rw [hc] at hs hrests
    cases p with
    | register request next =>
      cases hs
      exact .register hc rfl
    | cancel h next =>
      cases hs
      exact .cancel hc rfl
    | tick next => simp [begins, hc] at hb
    | done =>
      dsimp only [stepProgram] at hs
      split at hs
      · cases hs
        exact hrests rfl rfl rfl
      · cases hs
    | outside act next => cases hs; exact hrests rfl rfl rfl
    | isPending h next => cases hs; exact hrests rfl rfl rfl
    | lookup d callback next => cases hs; exact hrests rfl rfl rfl
    | status next => cases hs; exact hrests rfl rfl rfl
    | drive maxTicks next => cases hs; exact hrests rfl rfl rfl
  | drain served =>
    rw [hc] at hs hrests
    cases hs
    unfold stepDrain at hrests ⊢
    rcases ht : m.system.reactor.takeReady with _ | ⟨_ | e, r⟩
    · rw [ht] at hrests
      refine hrests rfl ?_ rfl
      dsimp only [Reactor.dispatched]
      rw [ht]
      cases m.system.reactor.ready <;> rfl
    · exact .takes hc ht
    · exact .takes hc ht
  | driver ticks maxTicks =>
    rw [hc] at hs hrests
    cases hs
    have hwill : m.willTick host = false := by simpa [begins, hc] using hb
    rw [hwill] at hrests
    refine hrests ?_ rfl rfl
    simp only [willTick, hc, Bool.and_eq_false_iff, Bool.not_eq_false'] at hwill
    -- without a tick the loop is stopped or at its limit
    unfold stepDriver
    split
    · rfl
    · next hstop =>
      rw [if_pos (hwill.resolve_left hstop)]
      rfl
  | answer result =>
    rw [hc] at hs hrests
    dsimp only at hs
    split at hs
    · cases hs
      exact hrests rfl rfl rfl
    · cases hs
      refine hrests ?_ rfl rfl
      unfold afterTick
      split <;> rfl
    · cases hs

theorem stepDriver_noting (l : List Exchange) {ticks : Nat} {maxTicks : Option UInt64}
    (hc : m.control = .driver ticks maxTicks) :
    stepDriver host.noting (m.system.beside l) ticks maxTicks (m.frames.map Frame.noting) =
      (stepDriver host m.system ticks maxTicks m.frames).noting (l ++ m.exchanges host) := by
  simp only [exchanges, willTick, hc]
  unfold stepDriver
  rw [show host.noting.stopped (m.system.beside l).outside = host.stopped m.system.outside from rfl]
  by_cases hstop : host.stopped m.system.outside = true
  · simp [hstop, endDrive, Host.report, System.beside, Machine.noting, Control.noting, Host.noting, Host.beside]
  · by_cases hlimit : isLimit ticks maxTicks = true
    · simp [hstop, hlimit, endDrive, Host.report, System.beside, Machine.noting, Control.noting,
        Host.noting, Host.beside]
    · simp only [hstop, hlimit]
      exact beginTick_noting host m.system l (.driver ticks maxTicks :: m.frames)

theorem stepProgram_noting (l : List Exchange) {p : Program σ α} (hc : m.control = .program p) :
    stepProgram host.noting (m.system.beside l) (m.frames.map Frame.noting) p.noting =
      (stepProgram host m.system m.frames p).map fun m' => m'.noting (l ++ m.exchanges host) := by
  simp only [exchanges, hc]
  cases p with
  | done =>
    simp only [List.append_nil]
    rcases hf : m.frames with _ | ⟨_ | _ | _, frames⟩ <;> rfl
  | register request next =>
    dsimp only [stepProgram, Program.noting]
    rw [Host.noting, Host.register_beside, foldl_append_singleton]
    rfl
  | cancel h next =>
    dsimp only [stepProgram, Program.noting]
    rw [Host.noting, Host.cancel_beside, List.append_nil]
    rfl
  | tick next => exact congrArg some (beginTick_noting host m.system l (.caller next :: m.frames))
  | outside act next => simp only [List.append_nil]; rfl
  | isPending h next => simp only [List.append_nil]; rfl
  | lookup d callback next => simp only [List.append_nil]; rfl
  | status next => simp only [List.append_nil]; rfl
  | drive maxTicks next => simp only [List.append_nil]; rfl

/-- **Surroundings that write down behave as before, and write down the exchanges of the step.** -/
theorem step_noting (host : Host σ α) (m : Machine σ α) (l : List Exchange) :
    (m.noting l).step host.noting = (m.step host).map fun m' => m'.noting (l ++ m.exchanges host) := by
  unfold step
  cases hc : m.control with
  | program p =>
    rw [show (m.noting l).control = .program p.noting by simp [noting, Control.noting, hc]]
    exact stepProgram_noting l hc
  | drain served =>
    rw [show (m.noting l).control = .drain served by simp [noting, Control.noting, hc],
      show m.exchanges host = [] by simp [exchanges, hc], List.append_nil]
    exact congrArg some (stepDrain_noting host m.system l m.frames served)
  | driver ticks maxTicks =>
    rw [show (m.noting l).control = .driver ticks maxTicks by simp [noting, Control.noting, hc]]
    exact congrArg some (stepDriver_noting l hc)
  | answer result =>
    rw [show (m.noting l).control = .answer result by simp [noting, Control.noting, hc],
      show m.exchanges host = [] by simp [exchanges, hc], List.append_nil]
    dsimp only [noting]
    rcases m.frames with _ | ⟨next | served | ⟨ticks, maxTicks⟩, frames⟩
    · rfl
    · rfl
    · rfl
    · exact congrArg some (afterTick_noting host m.system l frames ticks maxTicks result)

/-! ## Runs -/

/-- The exchanges of a number of steps. -/
def exchanged (host : Host σ α) (m : Machine σ α) (n : Nat) : List Exchange :=
  (List.range n).flatMap fun k => (m.run host k).exchanges host

theorem exchanged_succ (n : Nat) :
    m.exchanged host (n + 1) = m.exchanged host n ++ (m.run host n).exchanges host := by
  simp [exchanged, List.range_succ]

/-- **A run in which everything is written down is the run itself, with its exchanges written down.** -/
theorem run_noting (host : Host σ α) (m : Machine σ α) (n : Nat) :
    (m.noting []).run host.noting n = (m.run host n).noting (m.exchanged host n) := by
  induction n with
  | zero => rfl
  | succ n ih =>
    rw [run_succ, run_succ, ih, step_noting, exchanged_succ]
    cases hs : (m.run host n).step host with
    | none => rw [exchanges_of_step_eq_none hs, List.append_nil]; rfl
    | some m' => rfl

theorem transcript_eq (host : Host σ α) (m : Machine σ α) (n : Nat) :
    m.transcript host n = m.exchanged host n := by
  rw [transcript, run_noting]
  rfl

/-- The transcript grows by the exchanges of each step. -/
theorem transcript_succ (n : Nat) :
    m.transcript host (n + 1) = m.transcript host n ++ (m.run host n).exchanges host := by
  rw [transcript_eq, transcript_eq, exchanged_succ]

end Machine

/-! ## What the reactor answers -/

/-- What the reactor answers to a call. -/
inductive Answer where
  | registered (answer : Except ReactorError Handle)
  | cancelled (answer : Except ReactorError Unit)
  | pending (answer : Bool)
  | found (answer : Option Handle)
  | status (answer : Reactor.Status)
  /-- The answer of a tick or of the driver loop. -/
  | returned (answer : Except ReactorError Nat)
  deriving DecidableEq

namespace Machine

/-- What the next step answers; none if it is no call of the reactor and the end of none. -/
def answer (host : Host σ α) (m : Machine σ α) : Option Answer :=
  match m.control with
  | .program (.register request _) => some (.registered (host.register m.system request).1)
  | .program (.cancel h _) => some (.cancelled (host.cancel m.system h).1)
  | .program (.isPending h _) => some (.pending (m.system.reactor.isPending h))
  | .program (.lookup d callback _) => some (.found (m.system.reactor.lookup d callback))
  | .program (.status _) => some (.status m.system.reactor.status)
  | .answer result => some (.returned result)
  | _ => none

/-- What the step after a number of steps answers. -/
def answerAt (host : Host σ α) (m : Machine σ α) (k : Nat) : Option Answer :=
  (m.run host k).answer host

end Machine

end EventLoop
