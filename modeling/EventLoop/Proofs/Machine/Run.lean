import EventLoop.Proofs.Machine.Occurrence

/-!
# The reactor along a run

A run is looked at after each number of steps. `Machine.reactorAt` is the reactor then, and
`Machine.occurrenceAt` what the next step does to it. Callbacks run in the middle of ticks, so every moment
at which a program or a callback can look at the reactor is among these.

* `effect_at` — from one moment to the next the reactor changes as its occurrence says.
* `accounted_at_every_moment` — at every moment of every run every notification is accounted for.
-/

namespace EventLoop

variable {σ α : Type}

namespace Machine

/-! ## Moments of a run -/

/-- The reactor after a number of steps. -/
def reactorAt (host : Host σ α) (m : Machine σ α) (k : Nat) : Reactor α :=
  (m.run host k).system.reactor

/-- What the step after a number of steps does to the reactor. -/
def occurrenceAt (host : Host σ α) (m : Machine σ α) (k : Nat) : Option (Occurrence α) :=
  (m.run host k).occurrence host

/-! ## Step by step -/

/-- One step more is one step at the end. -/
theorem run_succ (host : Host σ α) (m : Machine σ α) (k : Nat) :
    m.run host (k + 1) = ((m.run host k).step host).getD (m.run host k) := by
  induction k generalizing m with
  | zero =>
    unfold run run
    split
    · next h => rw [h, Option.getD_none]
    · next h => rw [h, Option.getD_some]
  | succ k ih =>
    unfold run
    split
    · next h => rw [h, Option.getD_none]
    · next m' h => exact ih m'

theorem run_add (host : Host σ α) (m : Machine σ α) (k n : Nat) :
    m.run host (k + n) = (m.run host k).run host n := by
  induction n with
  | zero => rfl
  | succ n ih => rw [Nat.add_succ, run_succ, ih, run_succ]

/-- A number of steps leads from one machine to the other. -/
def Reaches (host : Host σ α) (m m' : Machine σ α) : Prop := ∃ n, m.run host n = m'

theorem Reaches.refl (host : Host σ α) (m : Machine σ α) : Reaches host m m := ⟨0, rfl⟩

theorem Reaches.trans {host : Host σ α} {m m' m'' : Machine σ α} (h : Reaches host m m')
    (h' : Reaches host m' m'') : Reaches host m m'' := by
  obtain ⟨k, rfl⟩ := h
  obtain ⟨n, rfl⟩ := h'
  exact ⟨k + n, run_add host m k n⟩

theorem Reaches.step {host : Host σ α} {m m' m'' : Machine σ α} (hs : m.step host = some m')
    (h : Reaches host m' m'') : Reaches host m m'' := by
  refine Reaches.trans ⟨1, ?_⟩ h
  rw [run, hs]
  rfl

theorem effect_of_run_succ {host : Host σ α} {m : Machine σ α} {k : Nat}
    (hk : (m.reactorAt host k).WellFormed) :
    Reactor.Effect (m.occurrenceAt host k) (m.reactorAt host k) (m.reactorAt host (k + 1)) := by
  unfold reactorAt occurrenceAt
  rw [run_succ]
  cases hs : (m.run host k).step host with
  | none =>
    rw [occurrence_of_step_eq_none hs]
    exact .none (Reactor.WellFormed.rests_refl hk)
  | some m' => exact effect_of_step hk hs

/-- The records agree at every moment. The induction is on the number of steps. -/
theorem wellFormed_reactorAt (host : Host σ α) {m : Machine σ α} (hm : m.system.reactor.WellFormed) :
    ∀ k, (m.reactorAt host k).WellFormed
  | 0 => hm
  | k + 1 =>
    (effect_of_run_succ (wellFormed_reactorAt host hm k)).wellFormed (wellFormed_reactorAt host hm k)

/-- From one moment to the next the reactor changes as its occurrence says. -/
theorem effect_at (host : Host σ α) {m : Machine σ α} (hm : m.system.reactor.WellFormed) (k : Nat) :
    Reactor.Effect (m.occurrenceAt host k) (m.reactorAt host k) (m.reactorAt host (k + 1)) :=
  effect_of_run_succ (wellFormed_reactorAt host hm k)

end Machine

/-! ## A small run -/

/-- Surroundings in which time stands still, every descriptor can be read, and callbacks do nothing. -/
def Host.steady : Host Unit Unit where
  memory _ := .unbounded
  now s := (.ok .origin, s)
  wait entries _ s := (.ok (entries.map fun _ => .input), s)
  notify _ s := s
  stopped _ := false
  callback _ _ := .done

/-- To be notified when a descriptor can be read. -/
def Request.toRead : Request Unit :=
  { descriptor := .fd 3, callback := ⟨0⟩, arg := (), interest := .read, timeout := .infinite }

/-- Registers for reading and runs one tick. -/
def Program.readOnce : Program Unit Unit := .register .toRead fun _ => .tick fun _ => .done

/-- A reactor that was not used yet. -/
def System.unused : System Unit Unit := { reactor := .empty defaultWaitFloor, outside := () }

namespace Machine

/-! ## Every notification is accounted for -/

/-- **At every moment of every run every notification is accounted for.** -/
theorem accounted_at_every_moment {y : System σ α} (hy : y.reactor.Initial) (host : Host σ α)
    (p : Program σ α) (k : Nat) : ((start y p).reactorAt host k).Accounted :=
  (wellFormed_reactorAt host (Reactor.wellFormed_of_initial hy) k).accounted

theorem accounted_in_ready_queue :
    System.unused.reactor.Initial ∧
      ((start .unused .readOnce).reactorAt .steady 2).ready = [{ index := 0, generation := 0 }] ∧
      ((start .unused .readOnce).reactorAt .steady 2).Accounted :=
  ⟨.empty _, rfl, accounted_at_every_moment (y := .unused) (.empty _) .steady .readOnce 2⟩

end Machine

end EventLoop
