import EventLoop.Proofs.Machine.Run
import EventLoop.Proofs.Pool.Course

/-!
# Handles in the course of a run

The slots of notifications are used again, and `Machine.releases` counts how often. In a run they make a
`Pool.Course`, from which follows how long a handle resolves.

* `Effect.isPending_iff` — what becomes of a handle in one step.
* `course_of_run` — the notifications make a course.
* `isPending_until` — a handle resolves until its notification is withdrawn or invoked.
* `stale_after` — from then on it does not, as long as the word does not come round.
* `valid_until_withdrawn_or_invoked` — all that a handle promises to the one who got it.
-/

namespace EventLoop

variable {σ α : Type}

/-- The handle whose slot an occurrence gives back. -/
def Occurrence.freed? : Occurrence α → Option Handle
  | .cancelled h => some h
  | .invoked h _ => some h
  | _ => none

/-- The handle that an occurrence hands out. -/
def Occurrence.given? : Occurrence α → Option Handle
  | .registered h _ _ => some h
  | _ => none

theorem Occurrence.bind_given?_eq_some {o : Option (Occurrence α)} {h : Handle} :
    o.bind given? = some h ↔ ∃ request due, o = some (.registered h request due) := by
  cases o with
  | none => simp
  | some o => cases o <;> simp [given?]

theorem Occurrence.bind_freed?_eq_some {o : Option (Occurrence α)} {h : Handle} :
    o.bind freed? = some h ↔ o = some (.cancelled h) ∨ ∃ e, o = some (.invoked h e) := by
  cases o with
  | none => simp
  | some o => cases o <;> simp [freed?]

/-! ## One step -/

namespace Reactor.Effect

variable {o : Option (Occurrence α)} {r r' : Reactor α}

/-- What is given back was in use. -/
theorem isPending_of_freed (he : Effect o r r') {h : Handle} (ho : o.bind Occurrence.freed? = some h) :
    r.isPending h = true := by
  cases he with
  | none _ => cases ho
  | registered _ => cases ho
  | cancelled withdraws =>
    cases ho
    exact withdraws.notifications.present
  | selected _ => cases ho
  | invoked takes =>
    cases ho
    exact takes.notifications.present

/-- A handle resolves after a step if the step registered it, or if it did before and was not given
back. -/
theorem isPending_iff (he : Effect o r r') (h : Handle) :
    r'.isPending h = true ↔
      (∃ request due, o = some (.registered h request due)) ∨
        r.isPending h = true ∧ o.bind Occurrence.freed? ≠ some h := by
  unfold isPending Pool.contains
  cases he with
  | none rests => simp [rests.notifications]
  | @registered _ _ request due k g arms =>
    rw [arms.notifications.get?]
    by_cases hk : h = k
    · simp [hk]
    · simp [hk, Ne.symm hk, Occurrence.freed?]
  | @cancelled _ _ k withdraws =>
    rw [withdraws.notifications.get?]
    by_cases hk : h = k
    · simp [hk, Occurrence.freed?]
    · simp [hk, Ne.symm hk, Occurrence.freed?]
  | selected selects =>
    rw [selects.notifications.get?]
    simp [Occurrence.freed?]
  | @invoked _ _ k e takes =>
    rw [takes.notifications.get?]
    by_cases hk : h = k
    · simp [hk, Occurrence.freed?]
    · simp [hk, Ne.symm hk, Occurrence.freed?]

/-- A registered handle was not in use, and is of its slot's present generation. -/
theorem absent_of_registered (he : Effect o r r') {h : Handle} {request : Request α}
    {due : Option Instant} (ho : o = some (.registered h request due)) :
    r.isPending h = false ∧ h.generation = r.notifications.generationAt h.index := by
  subst ho
  cases he with
  | registered arms =>
    refine ⟨?_, arms.notifications.generation⟩
    rw [isPending, Pool.contains, arms.notifications.absent]
    rfl

/-- The generation of a slot goes up when the slot is given back. -/
theorem generationAt (he : Effect o r r') (i : UInt32) :
    r'.notifications.generationAt i =
      r.notifications.generationAt i +
        if (o.bind Occurrence.freed?).any (fun h => decide (h.index = i)) then 1 else 0 := by
  cases he with
  | none rests => simp [rests.notifications]
  | registered arms => simp [arms.notifications.generationAt, Occurrence.freed?]
  | cancelled withdraws =>
    simp [withdraws.notifications.generationAt, Occurrence.freed?, eq_comm]
  | selected selects => simp [selects.notifications.generationAt, Occurrence.freed?]
  | invoked takes => simp [takes.notifications.generationAt, Occurrence.freed?, eq_comm]

end Reactor.Effect

/-! ## Whole runs -/

namespace Machine

/-- How often a slot was given back in a number of steps. -/
def releases (host : Host σ α) (m : Machine σ α) (i : UInt32) : Nat → Nat
  | 0 => 0
  | k + 1 =>
    releases host m i k +
      if ((m.occurrenceAt host k).bind Occurrence.freed?).any (fun h => decide (h.index = i)) then 1 else 0

/-- The handle that a step hands out. -/
def givenAt (host : Host σ α) (m : Machine σ α) (k : Nat) : Option Handle :=
  (m.occurrenceAt host k).bind Occurrence.given?

/-- The handle that a step gives back. -/
def freedAt (host : Host σ α) (m : Machine σ α) (k : Nat) : Option Handle :=
  (m.occurrenceAt host k).bind Occurrence.freed?

theorem releases_eq (host : Host σ α) (m : Machine σ α) (i : UInt32) (n : Nat) :
    m.releases host i n = Pool.releases (m.freedAt host) i n := by
  induction n with
  | zero => rfl
  | succ n ih =>
    rw [releases, ih]
    rfl

/-- A step gives back one slot at most. -/
theorem releases_le (host : Host σ α) (m : Machine σ α) (i : UInt32) (k : Nat) :
    m.releases host i k ≤ k := by
  rw [releases_eq]
  exact Pool.releases_le (m.freedAt host) i k

theorem releases_mono (host : Host σ α) (m : Machine σ α) (i : UInt32) {k n : Nat} (hkn : k ≤ n) :
    m.releases host i k ≤ m.releases host i n := by
  rw [releases_eq, releases_eq]
  exact Pool.releases_mono (m.freedAt host) i hkn

variable {host : Host σ α} {m : Machine σ α}

/-- **The notifications of a run make a course.** -/
theorem course_of_run (hm : m.system.reactor.Initial) :
    Pool.Course (fun k => (m.reactorAt host k).notifications) (m.givenAt host) (m.freedAt host) where
  generationAt_zero i := Reactor.generationAt_of_initial hm i
  contains_succ k h := by
    have he := effect_at host (Reactor.wellFormed_of_initial hm) k
    rw [givenAt, Occurrence.bind_given?_eq_some]
    exact he.isPending_iff h
  present k _ hk := (effect_at host (Reactor.wellFormed_of_initial hm) k).isPending_of_freed hk
  absent k _ hk := by
    obtain ⟨request, due, ho⟩ := Occurrence.bind_given?_eq_some.mp hk
    exact (effect_at host (Reactor.wellFormed_of_initial hm) k).absent_of_registered ho
  generationAt_succ k i := (effect_at host (Reactor.wellFormed_of_initial hm) k).generationAt i

/-- **A handle that was given up is stale from then on.** -/
theorem stale_after (hm : m.system.reactor.Initial) {h : Handle} {k n : Nat}
    (hfew : m.releases host h.index n < 2 ^ 64)
    (hk : (m.occurrenceAt host k).bind Occurrence.freed? = some h) (hkn : k < n) :
    (m.reactorAt host n).isPending h = false := by
  rw [releases_eq] at hfew
  exact (course_of_run hm).stale_after hfew hk hkn

/-- **Nothing is given up twice.** -/
theorem not_freed_after (hm : m.system.reactor.Initial) {h : Handle} {k n : Nat}
    (hfew : m.releases host h.index n < 2 ^ 64)
    (hk : (m.occurrenceAt host k).bind Occurrence.freed? = some h) (hkn : k < n) :
    (m.occurrenceAt host n).bind Occurrence.freed? ≠ some h := by
  rw [releases_eq] at hfew
  exact (course_of_run hm).not_freed_after hfew hk hkn

/-- **A handle resolves until it is given up.** -/
theorem isPending_until (hm : m.system.reactor.Initial) {h : Handle} {j n : Nat} (hjn : j < n)
    {request : Request α} {due : Option Instant}
    (hreg : m.occurrenceAt host j = some (.registered h request due))
    (hkeep : ∀ k, j < k → k < n → (m.occurrenceAt host k).bind Occurrence.freed? ≠ some h) :
    (m.reactorAt host n).isPending h = true :=
  (course_of_run hm).contains_until hjn (Occurrence.bind_given?_eq_some.mpr ⟨request, due, hreg⟩) hkeep

/-- A handle given up before is not registered again. -/
theorem not_registered_after (hm : m.system.reactor.Initial) {h : Handle} {i k : Nat}
    (hfew : m.releases host h.index k < 2 ^ 64)
    (hi : (m.occurrenceAt host i).bind Occurrence.freed? = some h) (hik : i < k)
    (request : Request α) (due : Option Instant) :
    m.occurrenceAt host k ≠ some (.registered h request due) := by
  intro hk
  rw [releases_eq] at hfew
  exact (course_of_run hm).not_given_after hfew hi hik
    (Occurrence.bind_given?_eq_some.mpr ⟨request, due, hk⟩)

/-- **No handle is given out twice.** -/
theorem eq_of_registered (hm : m.system.reactor.Initial) {h : Handle} {j k n : Nat}
    (hfew : m.releases host h.index n < 2 ^ 64) (hj : j < n) (hk : k < n)
    {request request' : Request α} {due due' : Option Instant}
    (hreg : m.occurrenceAt host j = some (.registered h request due))
    (hreg' : m.occurrenceAt host k = some (.registered h request' due')) : j = k := by
  rw [releases_eq] at hfew
  exact (course_of_run hm).eq_of_given hfew hj hk (Occurrence.bind_given?_eq_some.mpr ⟨request, due, hreg⟩)
    (Occurrence.bind_given?_eq_some.mpr ⟨request', due', hreg'⟩)

/-! ## What a handle promises -/

/-- What holds, after a number of steps, for the one who got a handle at an earlier one. -/
structure HandleValid (host : Host σ α) (m : Machine σ α) (h : Handle) (registered n : Nat) : Prop where
  /-- It resolves exactly as long as its notification was neither withdrawn nor invoked. -/
  isPending_iff : (m.reactorAt host n).isPending h = true ↔
    ∀ k, registered < k → k < n →
      m.occurrenceAt host k ≠ some (.cancelled h) ∧ ∀ e, m.occurrenceAt host k ≠ some (.invoked h e)
  /-- So it still does in the ready queue. -/
  isPending_of_ready : h ∈ (m.reactorAt host n).ready → (m.reactorAt host n).isPending h = true
  /-- When its callback begins, it no longer does. -/
  stale_in_callback : ∀ k e, k + 1 = n → m.occurrenceAt host k = some (.invoked h e) →
    (m.run host n).control = .program (host.callback e.callback e) ∧
      (m.reactorAt host n).isPending h = false
  /-- While it resolves, withdrawing succeeds, takes this notification out and no other. -/
  cancel_ok : (m.reactorAt host n).isPending h = true →
    ∃ y, host.cancel (m.run host n).system h = (.ok (), y) ∧
      y.reactor.pending + 1 = (m.reactorAt host n).pending ∧ y.reactor.isPending h = false ∧
      ∀ k, k ≠ h → y.reactor.isPending k = (m.reactorAt host n).isPending k
  /-- Once it does not, withdrawing fails and changes nothing at all. -/
  cancel_stale : (m.reactorAt host n).isPending h = false →
    host.cancel (m.run host n).system h = (.error .stale, (m.run host n).system)
  /-- What was withdrawn is not invoked afterwards. -/
  not_invoked : ∀ c k e, c < k → k < n → m.occurrenceAt host c = some (.cancelled h) →
    m.occurrenceAt host k ≠ some (.invoked h e)
  /-- No other registration was answered with the same handle. -/
  unique : ∀ k request due, k < n → m.occurrenceAt host k = some (.registered h request due) →
    k = registered

theorem control_of_invoked {k : Nat} {h : Handle} {e : Event α}
    (ho : m.occurrenceAt host k = some (.invoked h e)) :
    (m.run host (k + 1)).control = .program (host.callback e.callback e) := by
  obtain ⟨served, rest, r, hc, -, ht⟩ := exists_drain_of_occurrence ho
  rw [run_succ]
  simp only [step, hc, stepDrain, ht, Option.getD_some]

theorem isPending_iff_of_registered (hm : m.system.reactor.Initial) {h : Handle} {j n : Nat}
    (hjn : j < n) (hfew : m.releases host h.index n < 2 ^ 64) {request : Request α}
    {due : Option Instant} (hreg : m.occurrenceAt host j = some (.registered h request due)) :
    (m.reactorAt host n).isPending h = true ↔
      ∀ k, j < k → k < n → (m.occurrenceAt host k).bind Occurrence.freed? ≠ some h := by
  constructor
  · intro hp k _ hkn hk
    rw [stale_after hm hfew hk hkn] at hp
    cases hp
  · exact isPending_until hm hjn hreg

/-- Withdrawing takes one notification out, and no other. -/
theorem cancel_of_isPending (hm : m.system.reactor.WellFormed) {h : Handle} {n : Nat}
    (hp : (m.reactorAt host n).isPending h = true) :
    ∃ y, host.cancel (m.run host n).system h = (.ok (), y) ∧
      y.reactor.pending + 1 = (m.reactorAt host n).pending ∧ y.reactor.isPending h = false ∧
      ∀ k, k ≠ h → y.reactor.isPending k = (m.reactorAt host n).isPending k := by
  rcases host.cancel_cases (wellFormed_reactorAt host hm n) h with ⟨-, hok, hw⟩ | ⟨hnot, -⟩
  · refine ⟨_, Prod.ext hok rfl, hw.notifications.activeCount, ?_, fun k hk => ?_⟩
    · rw [Reactor.isPending, Pool.contains, hw.notifications.get?, if_pos rfl]
      rfl
    · rw [Reactor.isPending, Pool.contains, hw.notifications.get?, if_neg hk]
      rfl
  · exact absurd (hp.symm.trans hnot) Bool.noConfusion

/-- **A handle is valid until its notification is withdrawn or invoked, and no other registration gets
it.** -/
theorem valid_until_withdrawn_or_invoked {y : System σ α} (hy : y.reactor.Initial) (host : Host σ α)
    (p : Program σ α) {j n : Nat} (hjn : j < n)
    (hfew : ∀ i, (start y p).releases host i n < 2 ^ 64) {h : Handle} {request : Request α}
    {due : Option Instant}
    (hreg : (start y p).occurrenceAt host j = some (.registered h request due)) :
    (start y p).HandleValid host h j n := by
  have hwf : ∀ k, ((start y p).reactorAt host k).WellFormed :=
    wellFormed_reactorAt host (Reactor.wellFormed_of_initial hy)
  have hiff := isPending_iff_of_registered (m := start y p) hy hjn (hfew h.index) hreg
  refine ⟨?_, ?_, ?_, ?_, ?_, ?_, ?_⟩
  · rw [hiff]
    refine forall_congr' fun k => forall_congr' fun _ => forall_congr' fun _ => ?_
    rw [ne_eq, Occurrence.bind_freed?_eq_some, not_or, not_exists]
  · intro hq
    obtain ⟨v, hv, -⟩ := ((hwf n).mem_ready h).mp hq
    exact Pool.contains_eq_true.mpr ⟨v, hv⟩
  · rintro k e rfl ho
    exact ⟨control_of_invoked ho,
      stale_after (m := start y p) hy (hfew h.index)
        (Occurrence.bind_freed?_eq_some.mpr (Or.inr ⟨e, ho⟩)) (Nat.lt_succ_self k)⟩
  · exact cancel_of_isPending (Reactor.wellFormed_of_initial hy)
  · intro hnot
    rcases host.cancel_cases (hwf n) h with ⟨hp, -⟩ | ⟨-, hstale⟩
    · exact absurd (hp.symm.trans hnot) Bool.noConfusion
    · exact hstale
  · intro c k e hck hkn hc hk
    have hlt := Nat.lt_of_le_of_lt (releases_mono host (start y p) h.index (Nat.le_of_lt hkn))
      (hfew h.index)
    exact not_freed_after (m := start y p) hy hlt (Occurrence.bind_freed?_eq_some.mpr (Or.inl hc)) hck
      (Occurrence.bind_freed?_eq_some.mpr (Or.inr ⟨e, hk⟩))
  · intro k request' due' hkn hk
    exact eq_of_registered (m := start y p) hy (hfew h.index) hkn hjn hk hreg

theorem valid_until_read :
    0 < 3 ∧ (∀ i, (start .unused .readOnce).releases .steady i 3 < 2 ^ 64) ∧
      (start .unused .readOnce).occurrenceAt .steady 0 =
        some (.registered { index := 0, generation := 0 } .toRead none) ∧
      (start .unused .readOnce).HandleValid .steady { index := 0, generation := 0 } 0 3 := by
  have hfew : ∀ i, (start .unused .readOnce).releases .steady i 3 < 2 ^ 64 := fun i =>
    Nat.lt_of_le_of_lt (releases_le _ _ i 3) (by decide)
  exact ⟨by decide, hfew, rfl,
    valid_until_withdrawn_or_invoked (y := .unused) (.empty _) .steady .readOnce (by decide) hfew rfl⟩

end Machine

end EventLoop
