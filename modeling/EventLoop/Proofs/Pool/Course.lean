import Mathlib.Algebra.Group.Nat.Defs
import EventLoop.Proofs.Pool.Handles

/-!
# Handles in the course of time

A slot is used again as soon as it is given back, so the same position comes to stand for one object after
another. What tells them apart is the generation of the slot, a word that counts how often it was given back.
`Pool.Course` says what this takes of the pools that follow each other, whoever changes them.

* `Course.contains_iff` — a handle resolves from the step that hands it out until the one that gives it back.
* `Course.stale_after` — from then on it does not, as long as the word does not come round.
* `Course.eq_of_given` — no handle is handed out twice.
-/

namespace EventLoop.Pool

variable {α : Type}

/-- A pool as it changes step by step, with the handle that each step hands out and the one that it gives
back. -/
structure Course (pools : Nat → Pool α) (given freed : Nat → Option Handle) : Prop where
  generationAt_zero : ∀ i, (pools 0).generationAt i = 0
  /-- A handle resolves after a step if the step handed it out, or if it did before and was not given back. -/
  contains_succ : ∀ k h, (pools (k + 1)).contains h = true ↔
    given k = some h ∨ (pools k).contains h = true ∧ freed k ≠ some h
  /-- What is given back was in use. -/
  present : ∀ k h, freed k = some h → (pools k).contains h = true
  /-- What is handed out was not in use, and is of its slot's present generation. -/
  absent : ∀ k h, given k = some h →
    (pools k).contains h = false ∧ h.generation = (pools k).generationAt h.index
  /-- The generation of a slot goes up when the slot is given back. -/
  generationAt_succ : ∀ k i, (pools (k + 1)).generationAt i =
    (pools k).generationAt i + if (freed k).any (fun h => decide (h.index = i)) then 1 else 0

/-! ## Counting -/

/-- How often a slot was given back in a number of steps. -/
def releases (freed : Nat → Option Handle) (i : UInt32) : Nat → Nat
  | 0 => 0
  | k + 1 => releases freed i k + if (freed k).any (fun h => decide (h.index = i)) then 1 else 0

theorem releases_mono (freed : Nat → Option Handle) (i : UInt32) {k n : Nat} (hkn : k ≤ n) :
    releases freed i k ≤ releases freed i n := by
  induction hkn with
  | refl => exact Nat.le_refl _
  | step _ ih => exact Nat.le_trans ih (Nat.le_add_right _ _)

/-- A step gives back one slot at most. -/
theorem releases_le (freed : Nat → Option Handle) (i : UInt32) (k : Nat) : releases freed i k ≤ k := by
  induction k with
  | zero => exact Nat.le_refl _
  | succ k ih =>
    unfold releases
    split <;> omega

theorem releases_lt_of_freed {freed : Nat → Option Handle} {h : Handle} {k n : Nat}
    (hk : freed k = some h) (hkn : k < n) : releases freed h.index k < releases freed h.index n := by
  have hstep : releases freed h.index (k + 1) = releases freed h.index k + 1 := by simp [releases, hk]
  have := releases_mono freed h.index (show k + 1 ≤ n from hkn)
  omega

/-- A word holds a number of releases without wrapping. -/
theorem releases_inj {freed : Nat → Option Handle} {i : UInt32} {k n : Nat}
    (hn : releases freed i n < 2 ^ 64) (hkn : releases freed i k < releases freed i n) :
    UInt64.ofNat (releases freed i k) ≠ UInt64.ofNat (releases freed i n) := by
  intro he
  have hnat := congrArg UInt64.toNat he
  have hsize : UInt64.size = 2 ^ 64 := rfl
  rw [UInt64.toNat_ofNat_of_lt' (by omega), UInt64.toNat_ofNat_of_lt' (by omega)] at hnat
  omega

/-! ## Handles along a course -/

namespace Course

variable {pools : Nat → Pool α} {given freed : Nat → Option Handle}

/-- The generation of a slot counts, in a word, how often it was given back. -/
theorem generationAt_eq (c : Course pools given freed) (i : UInt32) (k : Nat) :
    (pools k).generationAt i = UInt64.ofNat (releases freed i k) := by
  induction k with
  | zero => exact c.generationAt_zero i
  | succ k ih =>
    rw [c.generationAt_succ, ih, releases]
    split
    · rw [UInt64.ofNat_add]
      rfl
    · simp

/-- A handle that resolves tells how often its slot was given back before. -/
theorem generation_of_contains (c : Course pools given freed) {h : Handle} {k : Nat}
    (hk : (pools k).contains h = true) : h.generation = UInt64.ofNat (releases freed h.index k) := by
  obtain ⟨v, hv⟩ := contains_eq_true.mp hk
  rw [← c.generationAt_eq, generationAt_of_get? hv]

/-- **A handle that was given back is stale from then on.** -/
theorem stale_after (c : Course pools given freed) {h : Handle} {k n : Nat}
    (hfew : releases freed h.index n < 2 ^ 64) (hk : freed k = some h) (hkn : k < n) :
    (pools n).contains h = false := by
  -- resolving then and now, it would have two generations
  by_contra hne
  have hn := c.generation_of_contains (eq_true_of_ne_false hne)
  rw [c.generation_of_contains (c.present k h hk)] at hn
  exact releases_inj hfew (releases_lt_of_freed hk hkn) hn

/-- **Nothing is given back twice.** -/
theorem not_freed_after (c : Course pools given freed) {h : Handle} {k n : Nat}
    (hfew : releases freed h.index n < 2 ^ 64) (hk : freed k = some h) (hkn : k < n) :
    freed n ≠ some h := by
  intro hn
  have hlive := c.present n h hn
  rw [c.stale_after hfew hk hkn] at hlive
  cases hlive

/-- **A handle resolves until it is given back.** -/
theorem contains_until (c : Course pools given freed) {h : Handle} {j n : Nat} (hjn : j < n)
    (hj : given j = some h) (hkeep : ∀ k, j < k → k < n → freed k ≠ some h) :
    (pools n).contains h = true := by
  induction n with
  | zero => exact absurd hjn (Nat.not_lt_zero _)
  | succ n ih =>
    rw [c.contains_succ]
    rcases Nat.lt_succ_iff_lt_or_eq.mp hjn with hlt | rfl
    · exact Or.inr ⟨ih hlt fun k hjk hkn => hkeep k hjk (Nat.lt_succ_of_lt hkn),
        hkeep n hlt (Nat.lt_succ_self n)⟩
    · exact Or.inl hj

/-- A handle that resolves was handed out, and has not been given back since. -/
theorem exists_given (c : Course pools given freed) (hnone : ∀ h, (pools 0).contains h = false)
    {h : Handle} {n : Nat} (hn : (pools n).contains h = true) :
    ∃ j < n, given j = some h ∧ ∀ k, j < k → k < n → freed k ≠ some h := by
  induction n with
  | zero =>
    rw [hnone] at hn
    cases hn
  | succ n ih =>
    rcases (c.contains_succ n h).mp hn with hg | ⟨hlive, hkeep⟩
    · exact ⟨n, Nat.lt_succ_self n, hg, fun k hnk hkn => absurd (Nat.lt_succ_iff.mp hkn) (by omega)⟩
    · obtain ⟨j, hj, hg, hall⟩ := ih hlive
      refine ⟨j, Nat.lt_succ_of_lt hj, hg, fun k hjk hkn => ?_⟩
      rcases Nat.lt_succ_iff_lt_or_eq.mp hkn with hlt | rfl
      · exact hall k hjk hlt
      · exact hkeep

/-- **A handle resolves exactly between the step that hands it out and the one that gives it back.** -/
theorem contains_iff (c : Course pools given freed) (hnone : ∀ h, (pools 0).contains h = false)
    (h : Handle) (n : Nat) : (pools n).contains h = true ↔
      ∃ j < n, given j = some h ∧ ∀ k, j < k → k < n → freed k ≠ some h := by
  refine ⟨c.exists_given hnone, ?_⟩
  rintro ⟨j, hjn, hj, hkeep⟩
  exact c.contains_until hjn hj hkeep

/-- Between two steps that hand the same handle out, it was given back. -/
theorem exists_freed_between (c : Course pools given freed) {h : Handle} {j k : Nat} (hjk : j < k)
    (hj : given j = some h) (hk : given k = some h) : ∃ i, j < i ∧ i < k ∧ freed i = some h := by
  by_contra hnone
  have hkeep : ∀ i, j < i → i < k → freed i ≠ some h := fun i hji hik hi => hnone ⟨i, hji, hik, hi⟩
  have hlive := c.contains_until hjk hj hkeep
  rw [(c.absent k h hk).1] at hlive
  cases hlive

/-- A handle given back before has another generation than its slot. -/
theorem not_given_after (c : Course pools given freed) {h : Handle} {i k : Nat}
    (hfew : releases freed h.index k < 2 ^ 64) (hi : freed i = some h) (hik : i < k) :
    given k ≠ some h := by
  intro hk
  have hgen := (c.absent k h hk).2
  rw [c.generationAt_eq, c.generation_of_contains (c.present i h hi)] at hgen
  exact releases_inj hfew (releases_lt_of_freed hi hik) hgen

/-- **No handle is handed out twice.** -/
theorem eq_of_given (c : Course pools given freed) {h : Handle} {j k n : Nat}
    (hfew : releases freed h.index n < 2 ^ 64) (hjn : j < n) (hkn : k < n) (hj : given j = some h)
    (hk : given k = some h) : j = k := by
  have hlater : ∀ {a b : Nat}, a < b → b < n → given a = some h → given b ≠ some h := by
    intro a b hab hbn ha hb
    -- between the two the handle was given back, and then its slot has moved on
    obtain ⟨i, -, hib, hi⟩ := c.exists_freed_between hab ha hb
    have hle := releases_mono freed h.index (Nat.le_of_lt hbn)
    exact c.not_given_after (Nat.lt_of_le_of_lt hle hfew) hi hib hb
  rcases Nat.lt_trichotomy j k with hlt | heq | hgt
  · exact absurd hk (hlater hlt hkn hj)
  · exact heq
  · exact absurd hj (hlater hgt hjn hk)

end Course

end EventLoop.Pool
