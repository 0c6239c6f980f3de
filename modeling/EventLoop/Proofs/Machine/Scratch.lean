import EventLoop.Proofs.Machine.Occurrence
import EventLoop.Proofs.Reactor.Scratch

/-!
# Ticks on what earlier ticks have left

The scratch of a tick stays with the reactor, so a tick finds what the last one has left in it: after a failed
wait, entries in which some conditions may already have been written. `Machine.runOn` carries it along.

* `selectOn_eq` — whatever is found there, the first part of a tick does what `Host.select` does.
* `runOn_fst` — and runs are those of `Machine.run`.
-/

namespace EventLoop

variable {σ α : Type}

namespace Host

/-- The first part of a tick that finds a scratch, and leaves one in turn. A wait that fails may write
conditions into the entries before it does. -/
def selectOn (host : Host σ α) (scribble : List PollEntry → σ → List Conditions) (y : System σ α)
    (s : Scratch) : (Except ReactorError Unit × System σ α) × Scratch :=
  if host.hasRoom y then
    let s := y.reactor.fill s
    match host.remaining (host.report (Reactor.pollSetNotice y.reactor) y) y.reactor.earliest with
    | (.error e, y) => ((.error e, y), s)
    | (.ok left, y) =>
      match host.await y s.entries (waitBound left (!s.entries.isEmpty) y.reactor.floor) with
      | (.error e, z) => ((.error e, z), s.report (scribble s.entries y.outside))
      | (.ok reported, y) =>
        match host.readClock y with
        | (.error e, y) => ((.error e, y), s.report reported)
        | (.ok now, y) =>
          ((.ok (), { y with reactor := y.reactor.collectOn (s.report reported) now }), s.report reported)
  else ((.error .outOfMemory, y), s.clear)

/-- **Whatever an earlier tick has left behind, a tick does the same.** -/
theorem selectOn_eq (host : Host σ α) (scribble : List PollEntry → σ → List Conditions)
    (y : System σ α) (s : Scratch) : (host.selectOn scribble y s).1 = host.select y := by
  unfold selectOn select
  split
  · have hentries : (y.reactor.fill s).entries = y.reactor.pollSet := by rw [Reactor.fill_eq]
    dsimp only
    rw [hentries]
    obtain ⟨c₁, h₁⟩ := host.remaining_reactor (host.report (Reactor.pollSetNotice y.reactor) y)
      y.reactor.earliest
    rcases hleft : host.remaining (host.report (Reactor.pollSetNotice y.reactor) y)
      y.reactor.earliest with ⟨e | left, y₁⟩
    · rfl
    · rw [hleft] at h₁
      dsimp only at h₁ ⊢
      obtain ⟨c₂, h₂⟩ := host.await_reactor y₁ y.reactor.pollSet
        (waitBound left (!y.reactor.pollSet.isEmpty) y₁.reactor.floor)
      rcases hwait : host.await y₁ y.reactor.pollSet
        (waitBound left (!y.reactor.pollSet.isEmpty) y₁.reactor.floor) with ⟨e | reported, y₂⟩
      · rfl
      · rw [hwait, h₁] at h₂
        dsimp only at h₂ ⊢
        obtain ⟨c₃, h₃⟩ := host.readClock_reactor y₂
        rcases hnow : host.readClock y₂ with ⟨e | now, y₃⟩
        · rfl
        · rw [hnow, h₂] at h₃
          dsimp only at h₃ ⊢
          -- the lists were filled before the counts went up, for the same groups
          have hfill : y.reactor.fill s = y₃.reactor.fill s := by
            rw [h₃]
            rfl
          rw [hfill, Reactor.collectOn_fill]
  · rfl

end Host

namespace Machine

variable (host : Host σ α) (scribble : List PollEntry → σ → List Conditions)

/-- Begins a tick on top of the given frames and on a scratch. -/
def beginTickOn (y : System σ α) (s : Scratch) (frames : List (Frame σ α)) : Machine σ α × Scratch :=
  match host.selectOn scribble y s with
  | ((.ok (), y), s) => ({ system := y, control := .drain 0, frames }, s)
  | ((.error e, y), s) => ({ system := y, control := .answer (.error e), frames }, s)

/-- One step of a machine and the scratch of its reactor, which nothing but ticks touches. -/
def stepOn (m : Machine σ α) (s : Scratch) : Option (Machine σ α × Scratch) :=
  match m.control with
  | .program (.tick next) => some (beginTickOn host scribble m.system s (.caller next :: m.frames))
  | .driver made most =>
    if m.willTick host then some (beginTickOn host scribble m.system s (.driver made most :: m.frames))
    else (m.step host).map (·, s)
  | _ => (m.step host).map (·, s)

/-- A machine and the scratch of its reactor after at most a number of steps. -/
def runOn : Nat → Machine σ α → Scratch → Machine σ α × Scratch
  | 0, m, s => (m, s)
  | fuel + 1, m, s =>
    match m.stepOn host scribble s with
    | none => (m, s)
    | some (m, s) => runOn fuel m s

theorem beginTickOn_fst (y : System σ α) (s : Scratch) (frames : List (Frame σ α)) :
    (beginTickOn host scribble y s frames).1 = beginTick host y frames := by
  unfold beginTickOn beginTick
  rw [← host.selectOn_eq scribble y s]
  rcases host.selectOn scribble y s with ⟨⟨e | u, z⟩, s'⟩
  · rfl
  · rfl

theorem stepOn_fst (m : Machine σ α) (s : Scratch) :
    (m.stepOn host scribble s).map Prod.fst = m.step host := by
  unfold stepOn
  split
  · next next hc =>
    rw [Option.map_some, beginTickOn_fst, step, hc]
    rfl
  · next made most hc =>
    split
    · next hwill =>
      rw [willTick, hc] at hwill
      simp only [Bool.and_eq_true, Bool.not_eq_true'] at hwill
      rw [Option.map_some, beginTickOn_fst, step, hc]
      dsimp only
      rw [stepDriver, hwill.1, hwill.2]
      rfl
    · rw [Option.map_map]
      exact Option.map_id_apply
  · rw [Option.map_map]
    exact Option.map_id_apply

/-- **What ticks leave behind makes no difference to a run.** -/
theorem runOn_fst (n : Nat) (m : Machine σ α) (s : Scratch) :
    (runOn host scribble n m s).1 = m.run host n := by
  induction n generalizing m s with
  | zero => rfl
  | succ n ih =>
    unfold runOn run
    rw [← stepOn_fst host scribble m s]
    rcases m.stepOn host scribble s with _ | ⟨m', s'⟩
    · rfl
    · exact ih m' s'

end Machine

end EventLoop
