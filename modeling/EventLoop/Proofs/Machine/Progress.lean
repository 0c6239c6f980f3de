import EventLoop.Proofs.Machine.Nesting

/-!
# Ticks in progress

A tick is in progress from its selection until it has found the ready queue empty, callbacks and ticks
inside of it included. `Machine.inTick` reads this off the control and the frames.

* `isDraining_of_selected` — a selection is followed by a look at the ready queue.
* `served_of_not_inTick` — outside of ticks no tick counts callbacks.
* `ready_eq_nil_of_not_inTick` — nothing stands in the ready queue while no tick is in progress.
-/

namespace EventLoop

variable {σ α : Type}

/-- Is it a tick that is suspended? -/
def Frame.isDrain : Frame σ α → Bool
  | .drain _ => true
  | _ => false

namespace Machine

/-- Is a tick in progress, or suspended while a callback runs? -/
def inTick (m : Machine σ α) : Bool :=
  match m.control with
  | .drain _ => true
  | _ => m.frames.any Frame.isDrain

theorem inTick_of_frames {m : Machine σ α} (h : m.frames.any Frame.isDrain = true) : m.inTick = true := by
  unfold inTick
  split
  · rfl
  · exact h

theorem served_of_not_inTick {m : Machine σ α} (hout : m.inTick = false) : m.served = [] := by
  have hdrain : m.isDraining = false := by
    unfold inTick at hout
    unfold isDraining
    split
    · next c hc =>
      rw [hc] at hout
      cases hout
    · rfl
  have hframes : m.frames.any Frame.isDrain = false := by
    by_contra hany
    rw [inTick_of_frames (eq_true_of_ne_false hany)] at hout
    cases hout
  rw [served_of_not_drain hdrain]
  refine List.filterMap_eq_nil_iff.mpr fun frame hframe => ?_
  have hnot := List.any_eq_false.mp hframes frame hframe
  cases frame with
  | drain c => exact absurd rfl hnot
  | _ => rfl

variable {host : Host σ α} {m : Machine σ α}

/-! ## Into a tick -/

theorem select_of_selected {k : Nat} {reported : List Conditions} {now : Instant}
    (ho : m.occurrenceAt host k = some (.selected reported now)) :
    (host.select (m.run host k).system).1 = .ok () := by
  obtain ⟨-, hseen⟩ := exists_tick_of_occurrence ho
  exact Host.select_eq_ok_iff.mpr (by rw [hseen]; rfl)

/-- A selection is followed by a look at the ready queue. -/
theorem isDraining_of_selected {k : Nat} {reported : List Conditions} {now : Instant}
    (ho : m.occurrenceAt host k = some (.selected reported now)) :
    (m.run host (k + 1)).isDraining = true := by
  obtain ⟨frame, -, hstep⟩ := step_of_begins (begins_of_selection ho)
  rw [run_succ, hstep, Option.getD_some, beginTick_eq, select_of_selected ho]
  rfl

/-! ## No tick, no queue -/

/-- Only a selection adds to the ready queue. -/
theorem ready_sublist (hm : m.system.reactor.WellFormed) {i : Nat}
    (ho : (m.occurrenceAt host i).any Occurrence.isSelection = false) :
    (m.reactorAt host (i + 1)).ready.Sublist (m.reactorAt host i).ready := by
  have he := effect_at host hm i
  generalize m.occurrenceAt host i = o at he ho
  cases he with
  | none rests => exact rests.ready ▸ List.Sublist.refl _
  | registered arms => exact arms.ready ▸ List.Sublist.refl _
  | cancelled withdraws =>
    rw [withdraws.ready]
    exact List.filter_sublist
  | selected _ => cases ho
  | invoked takes =>
    rw [takes.ready]
    exact List.sublist_cons_self _ _

theorem ready_length_le (hm : m.system.reactor.WellFormed) {i : Nat}
    (ho : (m.occurrenceAt host i).any Occurrence.isSelection = false) :
    (m.reactorAt host (i + 1)).ready.length ≤ (m.reactorAt host i).ready.length :=
  (ready_sublist hm ho).length_le

/-- While no tick counts callbacks, nothing stands in the ready queue. The induction is on the number of steps. -/
theorem ready_eq_nil_of_served (hm : m.system.reactor.WellFormed) (hr : m.system.reactor.ready = []) (k : Nat)
    (hnil : (m.run host k).served = []) : (m.reactorAt host k).ready = [] := by
  induction k with
  | zero => exact hr
  | succ k ih =>
    have hstill : (m.occurrenceAt host k).any Occurrence.isSelection = false →
        (m.reactorAt host k).ready = [] → (m.reactorAt host (k + 1)).ready = [] := by
      intro hnot hempty
      have hle := ready_length_le hm hnot
      rw [hempty] at hle
      exact List.eq_nil_of_length_eq_zero (Nat.le_zero.mp hle)
    have hnests := nests_at host hm k
    rw [hnil] at hnests
    generalize ho : m.occurrenceAt host k = o at hnests
    generalize ha : m.tickAnswerAt host k = answer at hnests
    generalize hl : (m.run host k).served = l at hnests
    cases hnests with
    | leaves => exact hstill (by rw [ho]; rfl) (ready_of_tickAnswer (wellFormed_reactorAt host hm k) ha)
    | fails => exact hstill (by rw [ho]; rfl) (ih hl)
    | stays unselected _ => exact hstill (by rwa [ho]) (ih hl)

/-- **While no tick is in progress, nothing stands in the ready queue.** -/
theorem ready_eq_nil_of_not_inTick {host : Host σ α} {m : Machine σ α}
    (hm : m.system.reactor.WellFormed) (hr : m.system.reactor.ready = []) (k : Nat) :
    (m.run host k).inTick = false → (m.reactorAt host k).ready = [] := fun hout =>
  ready_eq_nil_of_served hm hr k (served_of_not_inTick hout)

end Machine

end EventLoop
