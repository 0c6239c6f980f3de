/-!
# Bisection

A test that holds up to some position and fails from there on has its border found by halving. Nothing is
said of a test without a border.
-/

namespace EventLoop

/-- The border of a test between two positions: the test holds before it and fails from it on. -/
def border (holds : Nat → Bool) (lo hi : Nat) : Nat :=
  if lo < hi then
    let mid := (lo + hi) / 2
    if holds mid then border holds (mid + 1) hi else border holds lo mid
  else lo
termination_by hi - lo
decreasing_by all_goals omega

/-- If there is a border, bisection finds it. -/
theorem border_eq {holds : Nat → Bool} {lo hi b : Nat} (hlo : lo ≤ b) (hhi : b ≤ hi)
    (before : ∀ i, i < b → holds i = true) (after : ∀ i, b ≤ i → i < hi → holds i = false) :
    border holds lo hi = b := by
  fun_induction border holds lo hi with
  | case1 lo hi h mid hm ih =>
    refine ih ?_ hhi after
    rcases Nat.lt_or_ge mid b with hb | hb
    · exact hb
    · rw [after mid hb (by omega)] at hm
      exact absurd hm (by simp)
  | case2 lo hi h mid hm ih =>
    refine ih hlo ?_ fun i hi' hlt => after i hi' (by omega)
    rcases Nat.lt_or_ge mid b with hb | hb
    · exact absurd (before mid hb) hm
    · exact hb
  | case3 lo hi h => omega

end EventLoop
