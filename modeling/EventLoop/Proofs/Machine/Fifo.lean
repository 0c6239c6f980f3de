import Mathlib.Algebra.GroupWithZero.Nat
import EventLoop.Proofs.Machine.Progress
import EventLoop.Proofs.Machine.Queue

/-!
# One queue for all ticks

However deep ticks are nested, they share one ready queue. A tick inside of a callback appends to it and
empties it, and the tick outside finds nothing more to do.

* `total_eq` — what ticks have answered with, and what those in progress have counted, is all that was
  invoked.
* `one_queue_for_all_ticks` — callbacks are invoked in the order in which their notifications were selected,
  whichever ticks did the one and the other.
-/

namespace EventLoop

variable {σ α : Type}

/-- Surroundings like the steady ones, in which every callback runs a tick. -/
def Host.nesting : Host Unit Unit :=
  { Host.steady with callback := fun _ _ => .tick fun _ => .done }

/-- Registers twice for reading and runs one tick. -/
def Program.readTwice : Program Unit Unit :=
  .register .toRead fun _ => .register .toRead fun _ => .tick fun _ => .done

namespace Machine

/-- The count that a tick answers with at a step; none if no tick ends well there. -/
def countAt (host : Host σ α) (m : Machine σ α) (k : Nat) : Option Nat :=
  (m.tickAnswerAt host k).bind Except.toOption

/-- The counts that ticks answered with in a number of steps. -/
def counts (host : Host σ α) (m : Machine σ α) (n : Nat) : List Nat :=
  (List.range n).filterMap (m.countAt host)

/-- What holds of the ready queue and of the ticks in a number of steps of a run. -/
structure Fifo (host : Host σ α) (m : Machine σ α) (n : Nat) : Prop where
  /-- What was appended and not withdrawn was invoked, in the order in which it was appended, each by the
  step with which it left the queue; the rest stands in the queue. -/
  order : ((m.arrivals host n).filter fun a => !m.isWithdrawn host n a).map
      (fun a => (m.departure host n a, a.2)) =
    (m.invocations host n).map (fun i => (some i.1, i.2)) ++ (m.queueAt host n).map fun q => (none, q)
  /-- Only a tick past its wait appends, behind all that stands in the queue. -/
  appended : ∀ k, k < n → m.appendedAt host k ≠ [] →
    (m.occurrenceAt host k).any Occurrence.isSelection = true ∧
      m.queueAt host (k + 1) = m.queueAt host k ++ m.appendedAt host k
  /-- Each callback is invoked by one tick, the innermost, which began before. -/
  invoker : ∀ i ∈ m.invocations host n, ∃ t rest, m.ticking host i.1 = t :: rest ∧ t < i.1
  /-- The suspended ticks are those in progress, and each has counted what it invoked itself. -/
  served : (m.run host n).served = (m.ticking host n).map fun t => m.own host t n
  /-- When a tick ends well the queue is empty, and the tick answers with what it invoked itself. -/
  ok : ∀ k c, k < n → m.tickAnswerAt host k = some (.ok c) →
    m.occurrenceAt host k = none ∧ m.queueAt host k = [] ∧ m.queueAt host (k + 1) = [] ∧
      ∃ t, m.ticking host k = t :: m.ticking host (k + 1) ∧ c = m.own host t k
  /-- A tick that fails does so at once: nothing is invoked, and the queue and the other ticks are left as
  they were. -/
  error : ∀ k e, k < n → m.tickAnswerAt host k = some (.error e) →
    (m.run host k).begins host = true ∧ m.occurrenceAt host k = none ∧
      m.queueAt host (k + 1) = m.queueAt host k ∧ m.ticking host (k + 1) = m.ticking host k
  /-- The answers of the ticks that ended well and the counts of those in progress make up all
  invocations. -/
  total : (m.counts host n).sum + (m.run host n).served.sum = (m.invocations host n).length
  /-- When no tick is in progress there are no counts left, and nothing stands in the queue. -/
  idle : (m.run host n).inTick = false → (m.run host n).served = [] ∧ m.queueAt host n = []

variable {host : Host σ α} {m : Machine σ α}

theorem counts_succ (n : Nat) :
    m.counts host (n + 1) = m.counts host n ++ (m.countAt host n).toList := by
  unfold counts
  rw [List.range_succ, List.filterMap_append]
  cases hn : m.countAt host n <;> simp [hn]

/-- **Answers and counts make up all invocations.** The induction is on the number of steps: a tick that
begins has counted nothing, one that invokes counts one more, and one that ends answers with its count. -/
theorem total_eq (hm : m.system.reactor.WellFormed) (hnil : m.served = []) (n : Nat) :
    (m.counts host n).sum + (m.run host n).served.sum = (m.invocations host n).length := by
  induction n with
  | zero =>
    rw [show (m.run host 0).served = [] from hnil]
    rfl
  | succ n ih =>
    have hnests := nests_at host hm n
    rw [counts_succ, invocations_succ]
    unfold countAt invokedAt
    generalize m.occurrenceAt host n = o at hnests ⊢
    generalize m.tickAnswerAt host n = answer at hnests ⊢
    generalize (m.run host n).served = l at hnests ih
    generalize (m.run host (n + 1)).served = l' at hnests ⊢
    cases hnests with
    | @enters o l selects =>
      have hno : (some o).bind Occurrence.invoked? = none := by cases o <;> trivial
      rw [hno]
      simpa using ih
    | @invokes o c rest invoked =>
      obtain ⟨q, hq⟩ := Option.isSome_iff_exists.mp invoked
      rw [show (some o).bind Occurrence.invoked? = some q from hq]
      simp only [List.sum_cons] at ih
      simp
      omega
    | @leaves c rest =>
      simp only [List.sum_cons] at ih
      simp [Except.toOption]
      omega
    | fails => simpa [Except.toOption] using ih
    | stays unselected uninvoked =>
      rw [uninvoked]
      simpa using ih

theorem queueAt_of_quiet (hm : m.system.reactor.WellFormed) {k : Nat}
    (ho : m.occurrenceAt host k = none) : m.queueAt host (k + 1) = m.queueAt host k := by
  obtain ⟨hsucc, happended⟩ := queueAt_succ host hm k
  rw [hsucc, happended (by rw [ho]; rfl), ho, List.append_nil]
  exact List.filter_eq_self.mpr (by simp)

theorem queueAt_of_ready {k : Nat} (h : (m.reactorAt host k).ready = []) : m.queueAt host k = [] := by
  unfold queueAt Reactor.queue
  rw [h]
  rfl

/-- **All ticks of a run share one queue, first in, first out, and each counts what it invokes itself.** -/
theorem one_queue_for_all_ticks {y : System σ α} (hy : y.reactor.Initial) (host : Host σ α)
    (p : Program σ α) (n : Nat) : (start y p).Fifo host n := by
  have hwf : (start y p).system.reactor.WellFormed := Reactor.wellFormed_of_initial hy
  have hnil : (start y p).served = [] := rfl
  have hready : (start y p).system.reactor.ready = [] := Reactor.ready_of_initial hy
  refine ⟨conserved hwf hready n, ?_, ?_, served_eq hwf hnil n, ?_, ?_, total_eq hwf hnil n, ?_⟩
  · intro k _ hne
    obtain ⟨hsucc, happended⟩ := queueAt_succ host hwf k
    have hsel : ((start y p).occurrenceAt host k).any Occurrence.isSelection = true := by
      by_contra hno
      exact hne (happended (eq_false_of_ne_true hno))
    refine ⟨hsel, hsucc.trans (congrArg (· ++ _) (List.filter_eq_self.mpr fun q _ => ?_))⟩
    obtain ⟨o, ho, hs⟩ := (Option.any_eq_true _ _).mp hsel
    rw [ho]
    cases o <;> first | rfl | cases hs
  · rintro ⟨k, h, e⟩ hi
    obtain ⟨k', -, hk'⟩ := List.mem_filterMap.mp hi
    obtain ⟨q, hq, heq⟩ := Option.map_eq_some_iff.mp hk'
    cases heq
    obtain ⟨t, rest, innermost, -⟩ := innermost_of_invoked hwf hnil (Option.isSome_of_eq_some hq)
    have hmem : t ∈ (start y p).ticking host k := by
      rw [innermost]
      exact List.mem_cons_self
    exact ⟨t, rest, innermost, (ticking_sorted host _ k).2 t hmem⟩
  · intro k c _ hanswer
    have hempty := queueAt_of_ready
      (ready_of_tickAnswer (wellFormed_reactorAt host hwf k) hanswer)
    obtain ⟨quiet, hown⟩ := own_of_ok hwf hnil hanswer
    exact ⟨quiet, hempty, (queueAt_of_quiet hwf quiet).trans hempty, hown⟩
  · intro k e _ hanswer
    have hbegins := begins_of_tickAnswer (wellFormed_reactorAt host hwf k) hanswer
    obtain ⟨quiet, hticking⟩ := ticking_of_error hwf hnil hanswer
    exact ⟨hbegins, quiet, queueAt_of_quiet hwf quiet, hticking⟩
  · intro hout
    exact ⟨served_of_not_inTick hout,
      queueAt_of_ready (ready_eq_nil_of_not_inTick hwf hready n hout)⟩

theorem one_queue_for_nested_ticks :
    System.unused.reactor.Initial ∧
      ((start .unused .readTwice).invocations .nesting 30).map (fun i => i.2.1.index) = [0, 1] ∧
      (start .unused .readTwice).counts .nesting 30 = [0, 1, 1] ∧
      (start .unused .readTwice).Fifo .nesting 30 :=
  ⟨.empty _, rfl, rfl, one_queue_for_all_ticks (y := .unused) (.empty _) .nesting .readTwice 30⟩

end Machine

end EventLoop
