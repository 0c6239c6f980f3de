import EventLoop.Proofs.Machine.Lockstep

/-!
# Runs that differ in their handles

What the pools hold in spare decides which handles are given out, and nothing else. So two reactors that
differ in what was allocated beforehand run in lockstep, with the handles given out so far side by side.

* `Machine.pairs` — the handles of two runs side by side. None is given out twice, so it is a renaming.
* `run_twins` — twins are twins after any number of steps.
* `pooling_unobservable` — what is allocated beforehand makes no difference that a script can see.
-/

namespace EventLoop

variable {σ α : Type}

namespace Machine

variable {host : Host (σ × List Handle) α} {ν : List (Handle × Handle)}
  {m m' : Machine (σ × List Handle) α}

/-! ## Runs -/

/-- The handles given out at the same registrations of two runs. -/
def pairs (host : Host σ α) (m m' : Machine σ α) (n : Nat) : List (Handle × Handle) :=
  (m.handles host n).zip (m'.handles host n)

/-- The invocations of a number of steps: when, what the callback was given, and how many others were
ready then. -/
def log (host : Host σ α) (m : Machine σ α) (n : Nat) : List (Nat × Event α × Nat) :=
  (m.invocations host n).map fun i => (i.1, i.2.2, (m.reactorAt host (i.1 + 1)).ready.length)

/-- What two runs have in common that differ in their handles only, after a number of steps. -/
structure SameButHandles (host : Host (σ × List Handle) α) (m m' : Machine (σ × List Handle) α)
    (n : Nat) : Prop where
  /-- As many handles were given out in both, and none twice: so the pairs are a renaming. -/
  handles : (m.handles host n).length = (m'.handles host n).length
  nodup : (m.handles host n).Nodup
  nodup' : (m'.handles host n).Nodup
  /-- In both, callers look up the names in the list of the handles given out so far. The latest is noted in
  the step after its registration. -/
  names : (m.run host n).system.outside.2 = m.handles host (n - 1)
  names' : (m'.run host n).system.outside.2 = m'.handles host (n - 1)
  /-- The same was asked of the surroundings and answered. -/
  transcript : m.transcript host n = m'.transcript host n
  /-- Every call was answered in the same way, up to the renaming. -/
  answers : ∀ k < n, Option.Rel (Answer.Agrees (m.pairs host m' (k + 1))) (m.answerAt host k)
    (m'.answerAt host k)
  /-- The same callbacks were invoked at the same steps with the same events. -/
  log : m.log host n = m'.log host n
  /-- The surroundings are the same, and so is all that can be seen of the reactor, except for what the
  pools hold. -/
  outside : (m.run host n).system.outside.1 = (m'.run host n).system.outside.1
  standing : (m.reactorAt host n).status.standing = (m'.reactorAt host n).status.standing
  /-- Neither run had come to its end before the other. -/
  isDone : ∀ k < n, (m.run host k).isDone host = (m'.run host k).isDone host

variable {n : Nat}

theorem pairs_succ (hlength : (m.handles host n).length = (m'.handles host n).length) :
    m.pairs host m' (n + 1) =
      m.pairs host m' n ++ newPairs (m.occurrenceAt host n) (m'.occurrenceAt host n) := by
  unfold pairs
  rw [handles_succ, handles_succ, List.zip_append hlength]
  rfl

/-- **Twins stay twins.** The induction is on the number of steps. -/
theorem run_twins (hh : host.Respects) (hm : m.system.reactor.Initial) (hm' : m'.system.reactor.Initial)
    (t : Twins [] m m') (hfew : ∀ i, m.releases host i n < 2 ^ 64)
    (hfew' : ∀ i, m'.releases host i n < 2 ^ 64) (hg : ∀ k < n, (m.run host k).Granted host)
    (hg' : ∀ k < n, (m'.run host k).Granted host) :
    (m.handles host n).length = (m'.handles host n).length ∧
      Twins (m.pairs host m' n) (m.run host n) (m'.run host n) := by
  induction n with
  | zero => exact ⟨rfl, t⟩
  | succ n ih =>
    have hlt := Nat.lt_succ_self n
    obtain ⟨hlength, htwins⟩ := ih
      (fun i => Nat.lt_of_le_of_lt (releases_mono host m i (Nat.le_succ n)) (hfew i))
      (fun i => Nat.lt_of_le_of_lt (releases_mono host m' i (Nat.le_succ n)) (hfew' i))
      (fun k hk => hg k (Nat.lt_succ_of_lt hk)) (fun k hk => hg' k (Nat.lt_succ_of_lt hk))
    have hlike := occurrence_like hh htwins (hg n hlt) (hg' n hlt)
    -- the new pair included, since its handles were not given out before
    have hone : OneToOne (m.pairs host m' (n + 1)) :=
      oneToOne_zip (nodup_handles hm hfew) (nodup_handles hm' hfew')
    rw [pairs_succ hlength] at hone ⊢
    refine ⟨?_, ?_⟩
    · rw [handles_succ, handles_succ, List.length_append, List.length_append, hlength]
      exact congrArg _ hlike.length_eq
    · have hstep := step_twins hh htwins (hg n hlt) (hg' n hlt) hone
      rw [run_succ, run_succ]
      generalize hs : (m.run host n).step host = next, hs' : (m'.run host n).step host = next' at hstep
      cases hstep with
      | none =>
        have hnone : newPairs (m.occurrenceAt host n) (m'.occurrenceAt host n) = [] := by
          unfold occurrenceAt
          rw [occurrence_of_step_eq_none hs]
          rfl
        rw [hnone, List.append_nil]
        exact htwins
      | some htwins' => exact htwins'

theorem sameButHandles (hh : host.Respects) (hm : m.system.reactor.Initial)
    (hm' : m'.system.reactor.Initial) (t : Twins [] m m') (hfew : ∀ i, m.releases host i n < 2 ^ 64)
    (hfew' : ∀ i, m'.releases host i n < 2 ^ 64) (hg : ∀ k < n, (m.run host k).Granted host)
    (hg' : ∀ k < n, (m'.run host k).Granted host)
    (hnames : (m.run host n).system.outside.2 = m.handles host (n - 1))
    (hnames' : (m'.run host n).system.outside.2 = m'.handles host (n - 1)) :
    m.SameButHandles host m' n := by
  have hrun : ∀ k ≤ n, (m.handles host k).length = (m'.handles host k).length ∧
      Twins (m.pairs host m' k) (m.run host k) (m'.run host k) := fun k hk =>
    run_twins hh hm hm' t
      (fun i => Nat.lt_of_le_of_lt (releases_mono host m i hk) (hfew i))
      (fun i => Nat.lt_of_le_of_lt (releases_mono host m' i hk) (hfew' i))
      (fun j hj => hg j (Nat.lt_of_lt_of_le hj hk)) fun j hj => hg' j (Nat.lt_of_lt_of_le hj hk)
  have hlike : ∀ k < n, Occurrence.Like (m.pairs host m' k) (m.occurrenceAt host k)
      (m'.occurrenceAt host k) := fun k hk =>
    occurrence_like hh (hrun k (Nat.le_of_lt hk)).2 (hg k hk) (hg' k hk)
  obtain ⟨hlength, htwins⟩ := hrun n (Nat.le_refl n)
  refine ⟨hlength, nodup_handles hm hfew, nodup_handles hm' hfew', hnames, hnames', ?_,
    fun k hk => ?_, ?_, htwins.outside.same, htwins.standing_eq, fun k hk => ?_⟩
  · rw [transcript_eq, transcript_eq]
    refine List.flatMap_congr fun k hk => ?_
    exact exchanges_eq hh (hrun k (Nat.le_of_lt (List.mem_range.mp hk))).2
  · obtain ⟨hlength, htwins⟩ := hrun k (Nat.le_of_lt hk)
    rw [pairs_succ hlength]
    exact answer_agrees hh htwins (hg k hk) (hg' k hk)
  · unfold log invocations
    rw [List.map_filterMap, List.map_filterMap]
    refine List.filterMap_congr fun k hk => ?_
    have hlt := List.mem_range.mp hk
    -- at its entry a callback is off the queue already
    have hready : (m.reactorAt host (k + 1)).ready.length = (m'.reactorAt host (k + 1)).ready.length :=
      (hrun (k + 1) hlt).2.reactor.ready.length_eq
    have hevent := congrArg (Option.map fun e => (k, e, (m.reactorAt host (k + 1)).ready.length))
      (hlike k hlt).invoked_eq
    rw [Option.map_map, Option.map_map] at hevent ⊢
    refine Eq.trans hevent ?_
    rw [hready]
    rfl
  · have hone := (hrun (k + 1) hk).2.outside.oneToOne
    obtain ⟨hlength, htwins⟩ := hrun k (Nat.le_of_lt hk)
    rw [pairs_succ hlength] at hone
    have hrel := step_rel hh htwins (hg k hk) (hg' k hk) hone
    unfold isDone
    generalize (m.run host k).step host = next, (m'.run host k).step host = next' at hrel
    cases hrel <;> rfl

/-- **How much is allocated beforehand makes no difference** to anything but the handles and what the pools
hold in spare. -/
theorem pooling_unobservable {y y' : System σ α} (hy : y.reactor.Initial) (hy' : y'.reactor.Initial)
    (hfloor : y.reactor.floor = y'.reactor.floor) (houtside : y.outside = y'.outside) {host : Host σ α}
    (hb : host.HandleBlind) (callback : Callback → Event α → Script σ α) (q : Script σ α) (n : Nat)
    (hfew : ∀ i, (start (y.beside []) q.program).releases (host.scripted callback) i n < 2 ^ 64)
    (hfew' : ∀ i, (start (y'.beside []) q.program).releases (host.scripted callback) i n < 2 ^ 64)
    (hg : ∀ k < n, ((start (y.beside []) q.program).run (host.scripted callback) k).Granted
      (host.scripted callback))
    (hg' : ∀ k < n, ((start (y'.beside []) q.program).run (host.scripted callback) k).Granted
      (host.scripted callback)) :
    (start (y.beside []) q.program).SameButHandles (host.scripted callback)
      (start (y'.beside []) q.program) n := by
  have hm : (start (y.beside []) q.program).system.reactor.Initial := hy
  have hm' : (start (y'.beside []) q.program).system.reactor.Initial := hy'
  have hstart : Twins [] (start (y.beside []) q.program) (start (y'.beside []) q.program) := by
    refine ⟨⟨⟨houtside, .nil, nofun⟩, .program (q.alike []), .nil⟩, ?_, ?_⟩
    · exact Reactor.twins_of_initial hy hy' hfloor
    · exact (Reactor.counters_of_initial hy).trans (Reactor.counters_of_initial hy').symm
  have hh := Host.respects_scripted hb callback
  have hnames := names_eq_handles host callback y q n
  have hnames' := names_eq_handles host callback y' q n
  generalize start (y.beside []) q.program = m, start (y'.beside []) q.program = m',
    host.scripted callback = host at *
  exact sameButHandles hh hm hm' hstart hfew hfew' hg hg' hnames hnames'

end Machine

/-! ## A run with and without allocation beforehand -/

/-- A reactor that was not used yet, with slots to spare. -/
def System.prepared : System Unit Unit :=
  { reactor := (Reactor.ofSettings .unbounded { groups := 2, notifications := 3 }).toOption.getD default
    outside := () }

theorem System.initial_prepared : System.prepared.reactor.Initial :=
  @Reactor.Initial.ofSettings Unit .unbounded { groups := 2, notifications := 3 } System.prepared.reactor
    (by decide) (by decide) rfl

/-- Registers twice, withdraws the second registration, and runs one tick. -/
def Script.withdrawSecond : Script Unit Unit :=
  .register .toRead fun _ => .register .toRead fun _ => .cancel 1 fun _ => .tick fun _ => .done

/-- Surroundings in which time stands still, every descriptor can be read, and callbacks register
themselves again and try to withdraw the second registration of all. -/
def Host.insistent : Host (Unit × List Handle) Unit :=
  Host.steady.scripted fun _ e => .register (e.again .read .infinite) fun _ => .cancel 1 fun _ => .done

namespace Machine

theorem steady_handleBlind : Host.steady.HandleBlind := fun _ _ _ => rfl

theorem withdraw_second_granted :
    ∀ k < 16, ((start (System.unused.beside []) Script.withdrawSecond.program).run .insistent k).Granted
      .insistent := by
  unfold Granted
  decide

theorem prepared_withdraw_second_granted :
    ∀ k < 16, ((start (System.prepared.beside []) Script.withdrawSecond.program).run .insistent k).Granted
      .insistent := by
  unfold Granted
  decide

theorem three_handles_renamed :
    System.unused.reactor.Initial ∧ System.prepared.reactor.Initial ∧ Host.steady.HandleBlind ∧
      (start (System.unused.beside []) Script.withdrawSecond.program).handles .insistent 16 =
        [⟨0, 0⟩, ⟨1, 0⟩, ⟨1, 1⟩] ∧
      (start (System.prepared.beside []) Script.withdrawSecond.program).handles .insistent 16 =
        [⟨0, 0⟩, ⟨1, 0⟩, ⟨2, 0⟩] ∧
      (start (System.unused.beside []) Script.withdrawSecond.program).SameButHandles .insistent
        (start (System.prepared.beside []) Script.withdrawSecond.program) 16 := by
  refine ⟨.empty _, System.initial_prepared, steady_handleBlind, by decide, by decide, ?_⟩
  exact pooling_unobservable (y := .unused) (.empty _) System.initial_prepared rfl rfl
    steady_handleBlind _ .withdrawSecond 16
    (fun i => Nat.lt_of_le_of_lt (releases_le _ _ i 16) (by decide))
    (fun i => Nat.lt_of_le_of_lt (releases_le _ _ i 16) (by decide)) withdraw_second_granted
    prepared_withdraw_second_granted

end Machine

end EventLoop
