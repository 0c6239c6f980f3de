import EventLoop.Proofs.Pool.Calls
import EventLoop.Proofs.Pool.Course

/-!
# The life of a handle

What the holder of a handle can rely on, whatever others do with handles of their own. As long as a pool is not
cleared its calls make a `Pool.Course`, so its handles resolve from the call that hands them out until the one
that gives them back; `get?_after` adds what becomes of the object in between.

* `course_of_calls` — calls make a course.
* `get?_after` — while a handle resolves, its object is changed only by the writes through this handle.
* `handles_never_alias` — all of it, after any number of calls.
-/

namespace EventLoop.Pool

variable {α : Type}

/-- What an object has become after a number of calls by the writes through a handle, starting after the call
that handed it out. -/
def written (cs : Nat → Call α) (h : Handle) (j : Nat) (v : α) : Nat → α
  | 0 => v
  | n + 1 => if j < n then (cs n).through h (written cs h j v n) else v

variable [Poolable α]

/-- The handle that a call of a sequence hands out. -/
def givenAt (p : Pool α) (cs : Nat → Call α) (k : Nat) : Option Handle :=
  ((p.after cs k).call (cs k)).1.given?

/-- The handle that a call of a sequence gives back. -/
def freedAt (p : Pool α) (cs : Nat → Call α) (k : Nat) : Option Handle :=
  (cs k).freed? ((p.after cs k).call (cs k)).1

/-! ## Calls make a course -/

theorem effect_after {p : Pool α} (hp : p.WellFormed) {cs : Nat → Call α} (hcs : ∀ k, cs k ≠ .clear)
    (k : Nat) :
    Effect (p.after cs k) (cs k) (p.givenAt cs k) (p.freedAt cs k) (p.after cs (k + 1)) :=
  effect_of_call (wellFormed_after hp cs k) (hcs k)

namespace Effect

variable {p q : Pool α} {c : Call α} {given freed : Option Handle}

theorem contains_iff (he : Effect p c given freed q) (h : Handle) :
    q.contains h = true ↔ given = some h ∨ p.contains h = true ∧ freed ≠ some h := by
  unfold Pool.contains
  cases he with
  | @adds k _ _ _ adds =>
    rw [adds.get?]
    by_cases hk : h = k
    · simp [hk]
    · simp [hk, Ne.symm hk]
  | @drops k _ drops =>
    rw [drops.get?]
    by_cases hk : h = k
    · simp [hk]
    · simp [hk, Ne.symm hk]
  | writes writes => simp [writes.get?]

theorem generationAt_eq (he : Effect p c given freed q) (i : UInt32) :
    q.generationAt i =
      p.generationAt i + if freed.any (fun h => decide (h.index = i)) then 1 else 0 := by
  cases he with
  | adds _ adds => simp [adds.generationAt]
  | drops drops => simp [drops.generationAt, eq_comm]
  | writes writes => simp [writes.generationAt]

end Effect

theorem Built.get?_eq_none {p : Pool α} (hp : p.Built) (h : Handle) : p.get? h = none := by
  cases hp with
  | empty => simp [Pool.empty, get?, slot?]
  | ofCapacity _ built => exact get?_ofCapacity built h

theorem Built.generationAt_eq_zero {p : Pool α} (hp : p.Built) (i : UInt32) : p.generationAt i = 0 := by
  cases hp with
  | empty => simp [Pool.empty, generationAt]
  | ofCapacity _ built => exact generationAt_ofCapacity built i

/-- **Calls make a course, unless they clear the pool.** -/
theorem course_of_calls {p : Pool α} (hp : p.Built) {cs : Nat → Call α} (hcs : ∀ k, cs k ≠ .clear) :
    Course (p.after cs) (p.givenAt cs) (p.freedAt cs) where
  generationAt_zero := hp.generationAt_eq_zero
  contains_succ k h := (effect_after hp.wellFormed hcs k).contains_iff h
  present k h hk := by
    have he := effect_after hp.wellFormed hcs k
    rw [hk] at he
    generalize p.givenAt cs k = given at he
    cases he with
    | drops drops => exact drops.present
  absent k h hk := by
    have he := effect_after hp.wellFormed hcs k
    rw [hk] at he
    generalize p.freedAt cs k = freed at he
    cases he with
    | adds _ adds =>
      refine ⟨?_, adds.generation⟩
      rw [contains, adds.absent]
      rfl
  generationAt_succ k i := (effect_after hp.wellFormed hcs k).generationAt_eq i

/-! ## Objects along a course -/

theorem through_of_given {p : Pool α} {cs : Nat → Call α} {k : Nat} {h : Handle}
    (hk : p.givenAt cs k = some h) (g : Handle) : (cs k).through g = id := by
  unfold givenAt at hk
  cases hc : cs k with
  | write w f =>
    rw [hc] at hk
    cases hk
  | _ => rfl

theorem through_of_freed {p : Pool α} {cs : Nat → Call α} {k : Nat} {h : Handle}
    (hk : p.freedAt cs k = some h) (g : Handle) : (cs k).through g = id := by
  unfold freedAt at hk
  cases hc : cs k with
  | write w f =>
    rw [hc] at hk
    cases hk
  | _ => rfl

/-- **While a handle resolves, its object is what was handed out with the writes through this handle.** The
induction is on the number of calls after the one that hands it out. -/
theorem get?_after {p : Pool α} (hp : p.Built) {cs : Nat → Call α} (hcs : ∀ k, cs k ≠ .clear) {h : Handle}
    {j n : Nat} (hjn : j < n) (hj : p.givenAt cs j = some h)
    (hkeep : ∀ k, j < k → k < n → p.freedAt cs k ≠ some h) :
    ∃ v, IsIdle v ∧ (p.after cs n).get? h = some (written cs h j ((cs j).init v) n) := by
  induction hjn with
  | refl =>
    have he := effect_after hp.wellFormed hcs j
    rw [hj] at he
    generalize p.freedAt cs j = freed at he
    cases he with
    | @adds _ v _ idle adds =>
      refine ⟨v, idle, ?_⟩
      rw [adds.get?, if_pos rfl, Nat.succ_eq_add_one, written, if_neg (Nat.lt_irrefl j)]
  | @step n hjn ih =>
    obtain ⟨v, hidle, hv⟩ := ih fun k hjk hkn => hkeep k hjk (Nat.lt_succ_of_lt hkn)
    have hnot := hkeep n hjn (Nat.lt_succ_self n)
    have he := effect_after hp.wellFormed hcs n
    have hw : written cs h j ((cs j).init v) (n + 1) =
        (cs n).through h (written cs h j ((cs j).init v) n) := if_pos hjn
    refine ⟨v, hidle, ?_⟩
    rw [hw]
    generalize hgiven : p.givenAt cs n = given at he
    generalize hfreed : p.freedAt cs n = freed at he hnot
    cases he with
    | @adds k _ _ _ adds =>
      -- another handle, since this one resolves already
      have hne : h ≠ k := by
        rintro rfl
        rw [adds.absent] at hv
        cases hv
      rw [adds.get?, if_neg hne, hv, through_of_given hgiven, id_eq]
    | @drops k _ drops =>
      have hne : h ≠ k := fun he => hnot (by rw [he])
      rw [drops.get?, if_neg hne, hv, through_of_freed hfreed, id_eq]
    | writes writes => rw [writes.get?, hv, Option.map_some]

/-! ## Live and stale handles -/

/-- Whoever calls with a handle that resolves is shown its object. -/
theorem call_of_get? {p : Pool α} {h : Handle} {v : α} (hv : p.get? h = some v) :
    (∀ f, (p.call (.write h f)).1 = .lent (some v)) ∧
      ∀ leave, (p.call (.release h leave)).1 = .lent (some v) := by
  refine ⟨fun f => ?_, fun leave => ?_⟩
  · rw [call, hv]
  · rw [call, releaseWith, hv]
    rfl

/-- A call with a stale handle is shown nothing and does nothing. -/
theorem call_of_stale {p : Pool α} {h : Handle} (hs : p.contains h = false) :
    p.get? h = none ∧ (∀ f, p.call (.write h f) = (.lent none, p)) ∧
      ∀ leave, p.call (.release h leave) = (.lent none, p) := by
  have hnone : p.get? h = none := Option.isNone_iff_eq_none.mp (by simpa [contains] using hs)
  refine ⟨hnone, fun f => ?_, fun leave => ?_⟩
  · rw [call, hnone, modify, hs]
    rfl
  · rw [call, releaseWith, hnone]
    rfl

/-- What the holder of a handle can rely on, after a number of calls. -/
structure Unaliased (p : Pool α) (cs : Nat → Call α) (n : Nat) : Prop where
  /-- Every handle is handed out once. -/
  given_once : ∀ h j k, j < n → k < n → p.givenAt cs j = some h → p.givenAt cs k = some h → j = k
  /-- A handle resolves from its own call on until it is given back, … -/
  contains_iff : ∀ h, (p.after cs n).contains h = true ↔
    ∃ j < n, p.givenAt cs j = some h ∧ ∀ k, j < k → k < n → p.freedAt cs k ≠ some h
  /-- … and never again. -/
  never_again : ∀ h k, k < n → p.freedAt cs k = some h → (p.after cs n).contains h = false
  /-- Only writes through a handle change its object. -/
  object : ∀ h j, j < n → p.givenAt cs j = some h → (p.after cs n).contains h = true →
    ∃ v, IsIdle v ∧ (p.after cs n).get? h = some (written cs h j ((cs j).init v) n)
  /-- This object is what the next call with the handle gets to see. -/
  live : ∀ h v, (p.after cs n).get? h = some v →
    (∀ f, ((p.after cs n).call (.write h f)).1 = .lent (some v)) ∧
      ∀ leave, ((p.after cs n).call (.release h leave)).1 = .lent (some v)
  stale : ∀ h, (p.after cs n).contains h = false → (p.after cs n).get? h = none ∧
    (∀ f, (p.after cs n).call (.write h f) = (.lent none, p.after cs n)) ∧
      ∀ leave, (p.after cs n).call (.release h leave) = (.lent none, p.after cs n)

/-- **Handles never alias**, as long as the pool is not cleared and no slot is given back so often that its
generation comes round. -/
theorem handles_never_alias {p : Pool α} (hp : p.Built) {cs : Nat → Call α} (hcs : ∀ k, cs k ≠ .clear)
    {n : Nat} (hfew : ∀ i, releases (p.freedAt cs) i n < 2 ^ 64) : p.Unaliased cs n where
  given_once h j k hjn hkn hj hk :=
    (course_of_calls hp hcs).eq_of_given (hfew h.index) hjn hkn hj hk
  contains_iff h := by
    refine (course_of_calls hp hcs).contains_iff (fun g => ?_) h n
    rw [after, contains, hp.get?_eq_none]
    rfl
  never_again h k hkn hk := (course_of_calls hp hcs).stale_after (hfew h.index) hk hkn
  object h j hjn hj hlive := by
    have hcourse := course_of_calls hp hcs
    refine get?_after hp hcs hjn hj fun k hjk hkn hk => ?_
    rw [hcourse.stale_after (hfew h.index) hk hkn] at hlive
    cases hlive
  live _ _ hv := call_of_get? hv
  stale _ hs := call_of_stale hs

/-- The second buffer is live and untouched by what was written to the first, whose handle is stale. -/
theorem handles_of_two_buffers :
    (empty : Pool Buffer).Unaliased releaseTwice 6 ∧
      ((empty : Pool Buffer).after releaseTwice 6).contains { index := 1, generation := 0 } = true ∧
        ((empty : Pool Buffer).after releaseTwice 6).contains { index := 0, generation := 0 } = false := by
  refine ⟨handles_never_alias .empty ?_ fun i => ?_, by decide +kernel, by decide +kernel⟩
  · rintro (_ | _ | _ | _ | _ | k) <;> intro hc <;> cases hc
  · exact Nat.lt_of_le_of_lt (releases_le _ i 6) (by decide)

end EventLoop.Pool
