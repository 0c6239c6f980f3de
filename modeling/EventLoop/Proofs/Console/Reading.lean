import EventLoop.Console.Terminal
import EventLoop.Proofs.Console.Lines
import Mathlib.Logic.Function.Iterate

/-!
# Reading piece after piece

A console reads its input a piece at a time, until the session is stopped. `Session.receive` is what becomes
of one read, `Session.receiveAll` of all that are made, with their number. What the session and others have to
report on the way plays no part: sessions are compared without their notices (`Session.quiet`).

* `iterate_read` — a read for each piece feeds the pieces one after another.
* `receiveAll_cases` — the session is stopped by a line that has ended, or by the end of the input.
-/

namespace EventLoop

/-- Is it a line, and not a notice? -/
def Utterance.isLine : Utterance → Bool
  | .line _ => true
  | .notice _ => false

namespace Session

/-! ## Without notices -/

/-- The session without the notices among what it said. -/
def quiet (s : Session) : Session := { s with said := (s.said.toList.filter Utterance.isLine).toArray }

theorem quiet_followedBy (s r : Session) : (s.followedBy r).quiet = s.quiet.followedBy r.quiet := by
  simp [quiet, followedBy]

theorem quiet_sayNotice (s : Session) (n : Notice) : (s.sayNotice n).quiet = s.quiet := by
  simp [quiet, sayNotice, Utterance.isLine]

theorem quiet_sayNotices (ns : List Notice) (s : Session) : (s.sayNotices ns).quiet = s.quiet := by
  induction ns generalizing s with
  | nil => rfl
  | cons n ns ih => exact (ih (s.sayNotice n)).trans (quiet_sayNotice s n)

section

variable (memory : Memory) {s s' : Session}

theorem store_of_quiet (h : s.quiet = s'.quiet) : s.store = s'.store :=
  show s.quiet.store = s'.quiet.store by rw [h]

theorem tail_of_quiet (h : s.quiet = s'.quiet) : s.tail = s'.tail :=
  show s.quiet.tail = s'.quiet.tail by rw [h]

theorem stopped_of_quiet (h : s.quiet = s'.quiet) : s.stopped = s'.stopped :=
  show s.quiet.stopped = s'.quiet.stopped by rw [h]

theorem quiet_obey (h : s.quiet = s'.quiet) (line : List UInt8) :
    (s.obey memory line).quiet = (s'.obey memory line).quiet := by
  rw [obey_eq, obey_eq memory s', quiet_followedBy, quiet_followedBy, h, store_of_quiet h]

theorem quiet_obeyLines (h : s.quiet = s'.quiet) (bytes : List UInt8) :
    (s.obeyLines memory bytes).quiet = (s'.obeyLines memory bytes).quiet := by
  fun_induction s.obeyLines memory bytes generalizing s' with
  | case1 s bytes hs =>
    rw [obeyLines_of_stopped ((stopped_of_quiet h).symm.trans hs)]
    exact congrArg (fun q : Session => ({ q with tail := bytes } : Session)) h
  | case2 s bytes hs hcut =>
    rw [obeyLines_of_not_mem (cutLine_eq_none.mp hcut)]
    exact congrArg (fun q : Session => ({ q with tail := bytes } : Session)) h
  | case3 s bytes hs line rest hcut hlt ih =>
    rw [obeyLines_of_cut ((stopped_of_quiet h).symm.trans (eq_false_of_ne_true hs)) hcut]
    exact ih (quiet_obey memory h line)

theorem quiet_feed (h : s.quiet = s'.quiet) (bytes : List UInt8) :
    (s.feed memory bytes).quiet = (s'.feed memory bytes).quiet := by
  unfold feed
  rw [tail_of_quiet h]
  exact quiet_obeyLines memory h _

theorem quiet_finish (h : s.quiet = s'.quiet) :
    (s.finish memory).quiet = (s'.finish memory).quiet := by
  unfold finish
  rw [tail_of_quiet h]
  split
  · exact h
  · exact quiet_feed memory h _

/-! ## Reads -/

/-- Takes what one read has brought: a piece of the input, or nothing at its end. -/
def receive (s : Session) (piece : List UInt8) : Session :=
  if piece = [] then (s.finish memory).stop else s.feed memory piece

theorem quiet_receive (h : s.quiet = s'.quiet) (piece : List UInt8) :
    (s.receive memory piece).quiet = (s'.receive memory piece).quiet := by
  unfold receive
  split
  · exact congrArg stop (quiet_finish memory h)
  · exact quiet_feed memory h piece

/-- Takes one read after another until stopped, and counts them. -/
def receiveAll (s : Session) : List (List UInt8) → Nat × Session
  | [] => (0, s)
  | p :: rest =>
    if s.stopped then (0, s)
    else
      let (reads, r) := receiveAll (s.receive memory p) rest
      (reads + 1, r)

theorem receiveAll_of_stopped (hs : s.stopped = true) (pieces : List (List UInt8)) :
    s.receiveAll memory pieces = (0, s) := by
  cases pieces with
  | nil => rfl
  | cons p rest => exact if_pos hs

/-- **The reads end with the one that brings a line by which the session is stopped, or with the one at the
end of the input.** -/
theorem receiveAll_cases {pieces : List (List UInt8)} (hne : [] ∉ pieces) (s : Session) :
    ∃ reads,
      (∀ j < reads, ((pieces.take j).foldl (feed memory) s).stopped = false) ∧
      (reads ≤ pieces.length ∧ ((pieces.take reads).foldl (feed memory) s).stopped = true ∧
          s.receiveAll memory (pieces ++ [[]]) = (reads, (pieces.take reads).foldl (feed memory) s) ∨
        reads = pieces.length + 1 ∧
          s.receiveAll memory (pieces ++ [[]]) =
            (reads, ((pieces.foldl (feed memory) s).finish memory).stop)) := by
  by_cases hs : s.stopped = true
  · exact ⟨0, nofun, Or.inl ⟨Nat.zero_le _, hs, receiveAll_of_stopped memory hs _⟩⟩
  · have hflag := eq_false_of_ne_true hs
    induction pieces generalizing s with
    | nil =>
      refine ⟨1, fun j hj => ?_, Or.inr ⟨rfl, ?_⟩⟩
      · rw [List.take_nil]
        exact hflag
      · rw [List.nil_append, receiveAll, if_neg hs]
        rfl
    | cons p rest ih =>
      rw [List.mem_cons, not_or] at hne
      have hreceive : s.receive memory p = s.feed memory p := if_neg (Ne.symm hne.1)
      have hall : s.receiveAll memory (p :: rest ++ [[]]) =
          (((s.feed memory p).receiveAll memory (rest ++ [[]])).1 + 1,
            ((s.feed memory p).receiveAll memory (rest ++ [[]])).2) := by
        rw [List.cons_append, receiveAll, if_neg hs, hreceive]
      rw [hall]
      by_cases hstop : (s.feed memory p).stopped = true
      · refine ⟨1, fun j hj => ?_, Or.inl ⟨Nat.succ_le_succ (Nat.zero_le _), hstop, ?_⟩⟩
        · rw [Nat.lt_one_iff.mp hj]
          exact hflag
        · rw [receiveAll_of_stopped memory hstop]
          rfl
      · obtain ⟨reads, hbefore, hend⟩ := ih hne.2 (s.feed memory p) hstop (eq_false_of_ne_true hstop)
        refine ⟨reads + 1, fun j hj => ?_, ?_⟩
        · cases j with
          | zero => exact hflag
          | succ j => exact hbefore j (Nat.lt_of_succ_lt_succ hj)
        · rcases hend with ⟨hle, hquit, heq⟩ | ⟨hlen, heq⟩
          · refine Or.inl ⟨Nat.succ_le_succ hle, hquit, ?_⟩
            rw [heq]
            rfl
          · refine Or.inr ⟨by rw [hlen, List.length_cons], ?_⟩
            rw [heq]
            rfl

end

end Session

namespace Terminal

variable {memory : Memory} {t : Terminal}

/-- A read that brings a piece feeds it to the session. -/
theorem read_of_piece {piece : List UInt8} (hp : piece ≠ []) {rest : List Arrival}
    (ha : t.arrivals = .ok piece :: rest) :
    t.read memory = { t with session := t.session.feed memory piece, arrivals := rest } := by
  unfold read
  rw [ha]
  cases piece with
  | nil => exact absurd rfl hp
  | cons b bytes => rfl

/-- A read that finds the end of the input stops the session. -/
theorem read_of_end {rest : List Arrival} (ha : t.arrivals = .ok [] :: rest) :
    t.read memory =
      { t with
        session := ((t.session.finish memory).sayNotice (Driver.notice .info "stdin closed")).stop
        arrivals := rest } := by
  unfold read
  rw [ha]
  rfl

/-- What one read does to the session, but for the notices. -/
theorem quiet_read {piece : List UInt8} {rest : List Arrival} (ha : t.arrivals = .ok piece :: rest) :
    (t.read memory).session.quiet = (t.session.receive memory piece).quiet := by
  unfold Session.receive
  split
  · next hp =>
    rw [read_of_end (hp ▸ ha)]
    exact congrArg Session.stop (Session.quiet_sayNotice _ _)
  · next hp => rw [read_of_piece hp ha]

theorem arrivals_read {piece : List UInt8} {rest : List Arrival} (ha : t.arrivals = .ok piece :: rest) :
    (t.read memory).arrivals = rest := by
  by_cases hp : piece = []
  · rw [read_of_end (hp ▸ ha)]
  · rw [read_of_piece hp ha]

/-- A read for each piece feeds the pieces one after another. -/
theorem iterate_read {pieces : List (List UInt8)} (hne : [] ∉ pieces) {rest : List Arrival}
    (ha : t.arrivals = pieces.map .ok ++ rest) :
    (read memory)^[pieces.length] t =
      { t with session := pieces.foldl (Session.feed memory) t.session, arrivals := rest } := by
  induction pieces generalizing t with
  | nil => exact congrArg (fun arrivals => ({ t with arrivals } : Terminal)) ha
  | cons p pieces ih =>
    rw [List.mem_cons, not_or] at hne
    rw [List.length_cons, Function.iterate_succ_apply, read_of_piece (Ne.symm hne.1) ha,
      ih hne.2 rfl]
    rfl

end Terminal

end EventLoop
