import EventLoop.Proofs.Machine.Scratch
import EventLoop.Proofs.Machine.Shift

/-!
# Failed ticks

A tick fails before it has selected anything: when it cannot reserve what it needs, when the clock cannot be
read before the wait or after it, or when the wait fails. `Host.Fails` lists these exits, with what each of
them counts.

* `fails_of_select` — there are no other exits, and none of them changes anything but the counts.
* `failed_tick_changes_nothing` — for every failed tick of every run, and for what comes after it.
-/

namespace EventLoop

variable {σ α : Type}

/-! ## The exits -/

/-- The ways in which a tick fails, with the ticks and the errors that it counts then. -/
inductive Host.Fails (host : Host σ α) (y : System σ α) : ReactorError → UInt64 → UInt64 → Prop where
  | noRoom (refused : host.hasRoom y = false) (unmade : host.waitCall y = none) :
      Fails host y .outOfMemory 0 0
  | clockBefore {fault : Fault} {s : σ} (unmade : host.waitCall y = none)
      (unread : host.now (host.notify (Reactor.pollSetNotice y.reactor) y.outside) = (.error fault, s)) :
      Fails host y (.clock fault) 0 1
  | waiting {call : WaitCall σ} {fault : Fault} {s : σ} (made : host.waitCall y = some call)
      (failed : host.wait call.entries call.bound call.outside = (.error fault, s)) :
      Fails host y (.ofWait fault) 1 1
  | clockAfter {call : WaitCall σ} {reported : List Conditions} {fault : Fault} {s s' : σ}
      (made : host.waitCall y = some call)
      (waited : host.wait call.entries call.bound call.outside = (.ok reported, s))
      (unread : host.now s = (.error fault, s')) : Fails host y (.clock fault) 1 1

namespace Host

variable {host : Host σ α} {y : System σ α} {e : ReactorError}

/-- A tick that makes no call fails for want of room or at the clock. -/
theorem fails_of_waitCall_eq_none (hcall : host.waitCall y = none)
    (he : (host.select y).1 = .error e) :
    ∃ ticks errors, host.Fails y e ticks errors ∧
      (host.select y).2.reactor = y.reactor.shift ticks errors := by
  rcases cases_of_waitCall_eq_none hcall with hroom | ⟨hroom, due, fault, s, hdue, hnow⟩
  · rw [select_of_not_hasRoom hroom] at he ⊢
    cases he
    exact ⟨0, 0, .noRoom hroom hcall, y.reactor.shift_zero.symm⟩
  · rw [select_of_unread hroom hdue hnow] at he ⊢
    cases he
    refine ⟨0, 1, .clockBefore hcall hnow, ?_⟩
    rw [Reactor.shift, ← Counters.error_eq_shift]
    rfl

/-- A tick that makes a call fails with its wait, or at the clock afterwards. -/
theorem fails_of_waitCall {call : WaitCall σ} (hcall : host.waitCall y = some call)
    (he : (host.select y).1 = .error e) :
    ∃ ticks errors, host.Fails y e ticks errors ∧
      (host.select y).2.reactor = y.reactor.shift ticks errors := by
  rw [select_of_waitCall hcall] at he ⊢
  rcases hwait : host.wait call.entries call.bound call.outside with ⟨fault | reported, s⟩
  · rw [hwait] at he
    cases he
    exact ⟨1, 1, .waiting hcall hwait, rfl⟩
  · rw [hwait] at he
    unfold afterWait readClock at he ⊢
    dsimp only at he ⊢
    rcases hnow : host.now s with ⟨fault | now, s'⟩
    · rw [hnow] at he
      cases he
      exact ⟨1, 1, .clockAfter hcall hwait hnow, rfl⟩
    · rw [hnow] at he
      cases he

/-- **A failed tick changes nothing but the counts.** -/
theorem fails_of_select (he : (host.select y).1 = .error e) :
    ∃ ticks errors, host.Fails y e ticks errors ∧
      (host.select y).2.reactor = y.reactor.shift ticks errors := by
  cases hcall : host.waitCall y with
  | none => exact fails_of_waitCall_eq_none hcall he
  | some call => exact fails_of_waitCall hcall he

end Host

/-! ## Failed ticks of a run -/

/-- Surroundings in which a signal cuts the first wait short. Afterwards every descriptor can be read. -/
def Host.signalled : Host Bool Unit where
  memory _ := .unbounded
  now s := (.ok .origin, s)
  wait entries _ s :=
    if s then (.ok (entries.map fun _ => .input), s)
    else (.error { interrupted := true, text := "Interrupted system call (os error 4)" }, true)
  notify _ s := s
  stopped _ := false
  callback _ _ := .done

/-- Registers for reading and runs two ticks. -/
def Program.readAgain : Program Bool Unit :=
  .register .toRead fun _ => .tick fun _ => .tick fun _ => .done

/-- A reactor that was not used yet, before the signal. -/
def System.unsignalled : System Bool Unit := { reactor := .empty defaultWaitFloor, outside := false }

namespace Machine

/-- The machine after the next step, but with the reactor of before: as if the tick that this step makes had
not been run. -/
def skipped (host : Host σ α) (m : Machine σ α) : Machine σ α :=
  { (m.run host 1) with
    system := { reactor := m.system.reactor, outside := (m.run host 1).system.outside } }

/-- What a tick that fails with the step after a number of steps does, and what it does not do. -/
structure FailedTick (host : Host σ α) (m : Machine σ α) (k : Nat) (e : ReactorError)
    (ticks errors : UInt64) : Prop where
  exit : host.Fails (m.run host k).system e ticks errors
  /-- Of the reactor nothing but the counts is different afterwards. -/
  reactor : m.reactorAt host (k + 1) = (m.reactorAt host k).shift ticks errors
  /-- Who asked for the tick is told the error. -/
  answer : (m.run host (k + 1)).control = .answer (.error e) ∧
    ∃ frame, (m.run host (k + 1)).frames = frame :: (m.run host k).frames
  /-- A tick that is made now goes as one made before, in whatever surroundings. -/
  next : ∀ s, host.select { reactor := m.reactorAt host (k + 1), outside := s } =
    ((host.select { reactor := m.reactorAt host k, outside := s }).1,
      (host.select { reactor := m.reactorAt host k, outside := s }).2.shift ticks errors)
  /-- So does all that follows, until the counts are shown, and whatever the tick has left in the scratch. -/
  later : ∀ scribble s s' n,
    (∀ i < n, (((m.run host k).skipped host).run host i).Overlooks ticks errors host) →
      (runOn host scribble n (m.run host (k + 1)) s).1 =
        (runOn host scribble n ((m.run host k).skipped host) s').1.shift ticks errors
  /-- What happens on the way is the same. -/
  same : ∀ n, (∀ i < n, (((m.run host k).skipped host).run host i).Overlooks ticks errors host) →
    m.occurrenceAt host (k + 1 + n) = ((m.run host k).skipped host).occurrenceAt host n ∧
      m.tickAnswerAt host (k + 1 + n) = ((m.run host k).skipped host).tickAnswerAt host n ∧
      m.waitCallAt host (k + 1 + n) = ((m.run host k).skipped host).waitCallAt host n

/-- A tick that fails in a step leaves the machine as if it had been skipped, but for the counts. -/
theorem run_one_of_error {host : Host σ α} {m : Machine σ α} (hm : m.system.reactor.WellFormed)
    {e : ReactorError} (ha : m.tickAnswer host = some (.error e)) :
    ∃ ticks errors, host.Fails m.system e ticks errors ∧
      m.run host 1 = (m.skipped host).shift ticks errors ∧
      (m.run host 1).control = .answer (.error e) ∧
      ∃ frame, (m.run host 1).frames = frame :: m.frames := by
  have hb := begins_of_tickAnswer hm ha
  obtain ⟨frame, -, hstep⟩ := step_of_begins hb
  have hrun : m.run host 1 = beginTick host m.system (frame :: m.frames) := by
    rw [run, hstep]
    rfl
  have herr : (host.select m.system).1 = .error e := by
    rw [tickAnswer_of_step (by simp [hb]) hstep, beginTick_eq] at ha
    rcases hsel : (host.select m.system).1 with e' | u
    · rw [hsel] at ha
      cases ha
      rfl
    · rw [hsel] at ha
      cases ha
  obtain ⟨ticks, errors, hfails, hreactor⟩ := Host.fails_of_select herr
  rw [beginTick_eq, herr] at hrun
  refine ⟨ticks, errors, hfails, ?_, ?_, frame, ?_⟩
  · unfold skipped shift System.shift
    rw [hrun, ← hreactor]
  · rw [hrun]
  · rw [hrun]

/-- **A failed tick changes nothing**, at top level or inside of a callback. -/
theorem failed_tick_changes_nothing {y : System σ α} (hy : y.reactor.Initial) (host : Host σ α)
    (p : Program σ α) {k : Nat} {e : ReactorError}
    (ha : (start y p).tickAnswerAt host k = some (.error e)) :
    ∃ ticks errors, (start y p).FailedTick host k e ticks errors := by
  have hwf := wellFormed_reactorAt host (m := start y p) (Reactor.wellFormed_of_initial hy) k
  obtain ⟨ticks, errors, hfails, hrun, hcontrol, hframes⟩ := run_one_of_error hwf ha
  have hafter : ∀ n, (∀ i < n, ((((start y p).run host k).skipped host).run host i).Overlooks
      ticks errors host) → (start y p).run host (k + 1 + n) =
        ((((start y p).run host k).skipped host).run host n).shift ticks errors := by
    intro n ho
    rw [run_add, run_add, hrun]
    exact run_shift ho
  have hone := run_add host (start y p) k 1
  rw [hrun] at hone
  have hreactor : (start y p).reactorAt host (k + 1) = ((start y p).reactorAt host k).shift ticks errors := by
    rw [reactorAt, hone]
    rfl
  refine ⟨ticks, errors, hfails, hreactor, ?_, ?_, ?_, ?_⟩
  · rw [run_add]
    exact ⟨hcontrol, hframes⟩
  · intro s
    rw [hreactor]
    exact host.select_shift ticks errors { reactor := (start y p).reactorAt host k, outside := s }
  · intro scribble s s' n ho
    rw [runOn_fst, runOn_fst, hone]
    exact run_shift ho
  · intro n ho
    unfold occurrenceAt tickAnswerAt waitCallAt
    rw [hafter n ho]
    exact ⟨occurrence_shift _ _ _ _, tickAnswer_shift _ _ _ _, by
      rw [show ((((start y p).run host k).skipped host).run host n |>.shift ticks errors).system =
        System.shift ticks errors _ from rfl, Host.waitCall_shift]
      rfl⟩

/-- A signal cuts the first of two ticks short. The second reads. -/
theorem failed_tick_of_signal :
    System.unsignalled.reactor.Initial ∧
      (start .unsignalled .readAgain).tickAnswerAt .signalled 1 = some (.error .interrupted) ∧
      (∃ ticks errors, (start .unsignalled .readAgain).FailedTick .signalled 1 .interrupted ticks errors) ∧
      (start .unsignalled .readAgain).occurrenceAt .signalled 3 = some (.selected [.input] .origin) :=
  ⟨.empty _, rfl, failed_tick_changes_nothing (y := .unsignalled) (.empty _) .signalled .readAgain rfl, rfl⟩

end Machine

end EventLoop
