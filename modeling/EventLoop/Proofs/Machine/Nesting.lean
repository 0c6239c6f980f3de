import EventLoop.Proofs.Machine.Run

/-!
# Ticks inside of ticks

A callback may run ticks itself, and so may its callbacks. The frames of a machine hold, for each tick in
progress, the number of callbacks that it has invoked (`Machine.served`); `Machine.ticking` tells which ticks
they are, by the steps with which they began.

* `nests_of_step` — a step begins one tick on top, lets the innermost invoke a callback, ends the innermost,
  or leaves all ticks in progress as they are.
* `served_eq` — each tick in progress has counted the callbacks that it invoked itself.
-/

namespace EventLoop

variable {σ α : Type}

/-- The notification that an occurrence hands to its callback. -/
def Occurrence.invoked? : Occurrence α → Option (Handle × Event α)
  | .invoked h e => some (h, e)
  | _ => none

/-- Is it a tick that got past its wait and past the clock? -/
def Occurrence.isSelection : Occurrence α → Bool
  | .selected _ _ => true
  | _ => false

/-- What a suspended tick has counted. -/
def Frame.served? : Frame σ α → Option Nat
  | .drain served => some served
  | _ => none

namespace Machine

/-- What the ticks in progress have counted, innermost first. -/
def served (m : Machine σ α) : List Nat :=
  match m.control with
  | .drain served => served :: m.frames.filterMap Frame.served?
  | _ => m.frames.filterMap Frame.served?

/-- Does the next step begin a tick? -/
def begins (host : Host σ α) (m : Machine σ α) : Bool :=
  match m.control with
  | .program (.tick _) => true
  | .driver _ _ => m.willTick host
  | _ => false

/-- Does a tick look at the ready queue next? -/
def isDraining (m : Machine σ α) : Bool :=
  match m.control with
  | .drain _ => true
  | _ => false

/-- What a tick answers with the next step; none if no tick ends with it. -/
def tickAnswer (host : Host σ α) (m : Machine σ α) : Option (Except ReactorError Nat) :=
  if m.begins host || m.isDraining then
    match (m.step host).map Machine.control with
    | some (.answer result) => some result
    | _ => none
  else none

theorem served_of_drain {m : Machine σ α} {c : Nat} (hc : m.control = .drain c) :
    m.served = c :: m.frames.filterMap Frame.served? := by
  unfold served
  rw [hc]

theorem served_of_not_drain {m : Machine σ α} (hc : m.isDraining = false) :
    m.served = m.frames.filterMap Frame.served? := by
  unfold isDraining at hc
  unfold served
  split at hc
  · cases hc
  · rfl

/-! ## The beginning of a tick -/

theorem step_of_begins {host : Host σ α} {m : Machine σ α} (hb : m.begins host = true) :
    ∃ frame : Frame σ α, frame.served? = none ∧
      m.step host = some (beginTick host m.system (frame :: m.frames)) := by
  unfold begins at hb
  unfold step
  split at hb
  · next next hc =>
    rw [hc]
    exact ⟨.caller next, rfl, rfl⟩
  · next ticks maxTicks hc =>
    simp only [willTick, hc, Bool.and_eq_true, Bool.not_eq_true'] at hb
    rw [hc]
    dsimp only
    unfold stepDriver
    rw [if_neg (by simp [hb.1]), if_neg (by simp [hb.2])]
    exact ⟨.driver ticks maxTicks, rfl, rfl⟩
  · cases hb

theorem beginTick_eq (host : Host σ α) (y : System σ α) (frames : List (Frame σ α)) :
    beginTick host y frames =
      { system := (host.select y).2
        control :=
          match (host.select y).1 with
          | .ok () => .drain 0
          | .error e => .answer (.error e)
        frames } := by
  unfold beginTick
  rcases host.select y with ⟨e | u, y'⟩
  · rfl
  · rfl

theorem system_of_begins {host : Host σ α} {m : Machine σ α} (hb : m.begins host = true) :
    ∃ m', m.step host = some m' ∧ m'.system = (host.select m.system).2 := by
  obtain ⟨frame, -, hs⟩ := step_of_begins hb
  exact ⟨_, hs, beginTick_system host m.system _⟩

theorem occurrence_of_begins {host : Host σ α} {m : Machine σ α} (hb : m.begins host = true) :
    m.occurrence host = host.selection m.system := by
  unfold begins at hb
  unfold occurrence
  split at hb
  · next next hc => rw [hc]
  · next ticks maxTicks hc => rw [hc]; exact if_pos hb
  · cases hb

theorem isDraining_of_begins {host : Host σ α} {m : Machine σ α} (hb : m.begins host = true) :
    m.isDraining = false := by
  unfold begins at hb
  unfold isDraining
  split
  · next c hc =>
    rw [hc] at hb
    cases hb
  · rfl

theorem tickAnswer_of_step {host : Host σ α} {m m' : Machine σ α}
    (ht : (m.begins host || m.isDraining) = true) (hs : m.step host = some m') :
    m.tickAnswer host =
      match m'.control with
      | .answer result => some result
      | _ => none := by
  unfold tickAnswer
  rw [if_pos ht, hs, Option.map_some]
  cases m'.control <;> rfl

theorem tickAnswer_eq_none {host : Host σ α} {m : Machine σ α} (hb : m.begins host = false)
    (hd : m.isDraining = false) : m.tickAnswer host = none := by
  unfold tickAnswer
  rw [if_neg (by simp [hb, hd])]

/-! ## One step -/

/-- What a step does to the counts of the ticks in progress, by what it does to the reactor and by what it
answers for a tick. -/
inductive Nests : Option (Occurrence α) → Option (Except ReactorError Nat) → List Nat → List Nat → Prop where
  /-- A tick begins inside of the others. -/
  | enters {o : Occurrence α} {l : List Nat} (selects : o.isSelection = true) : Nests (some o) none l (0 :: l)
  /-- The innermost tick invokes a callback. -/
  | invokes {o : Occurrence α} {c : Nat} {rest : List Nat} (invoked : o.invoked?.isSome = true) :
      Nests (some o) none (c :: rest) ((c + 1) :: rest)
  /-- The innermost tick ends. -/
  | leaves {c : Nat} {rest : List Nat} : Nests none (some (.ok c)) (c :: rest) rest
  /-- A tick fails before it has begun to dispatch. -/
  | fails {e : ReactorError} {l : List Nat} : Nests none (some (.error e)) l l
  | stays {o : Option (Occurrence α)} {l : List Nat} (unselected : o.any Occurrence.isSelection = false)
      (uninvoked : o.bind Occurrence.invoked? = none) : Nests o none l l

theorem nests_of_begins {host : Host σ α} {m m' : Machine σ α} (hb : m.begins host = true)
    (hs : m.step host = some m') :
    Nests (m.occurrence host) (m.tickAnswer host) m.served m'.served := by
  obtain ⟨frame, hframe, hstep⟩ := step_of_begins hb
  rw [hstep] at hs
  cases hs
  rw [tickAnswer_of_step (by simp [hb]) hstep, occurrence_of_begins hb,
    served_of_not_drain (isDraining_of_begins hb)]
  have hframes : (frame :: m.frames).filterMap Frame.served? = m.frames.filterMap Frame.served? :=
    List.filterMap_cons_none hframe
  rw [beginTick_eq]
  rcases host.select_cases m.system with ⟨reported, now, c, hseen, hok, -⟩ | ⟨e, c, hseen, herr, -⟩
  · rw [hok, served_of_drain rfl, hframes, Host.selection_eq_some.mpr ⟨_, _, hseen, rfl⟩]
    exact .enters rfl
  · rw [herr, served_of_not_drain rfl, hframes, Host.selection, hseen]
    exact .fails

theorem nests_of_drain {host : Host σ α} {m m' : Machine σ α} {c : Nat}
    (hm : m.system.reactor.WellFormed) (hc : m.control = .drain c) (hs : m.step host = some m') :
    Nests (m.occurrence host) (m.tickAnswer host) m.served m'.served := by
  have hd : m.isDraining = true := by simp [isDraining, hc]
  rw [tickAnswer_of_step (by simp [hd]) hs, served_of_drain hc]
  unfold step at hs
  rw [hc] at hs
  cases hs
  simp only [occurrence, hc]
  unfold stepDrain Reactor.dispatched
  rcases Reactor.takeReady_cases hm with ⟨hq, hnone⟩ | ⟨h, e, r', hsome, htakes⟩
  · rw [hnone, hq]
    exact .leaves
  · rw [hsome, htakes.ready]
    exact .invokes rfl

/-- A tick that begins does not answer with a count in the same step. -/
theorem tickAnswer_of_begins {host : Host σ α} {m : Machine σ α} (hb : m.begins host = true) (c : Nat) :
    m.tickAnswer host ≠ some (.ok c) := by
  obtain ⟨frame, -, hstep⟩ := step_of_begins hb
  rw [tickAnswer_of_step (by simp [hb]) hstep, beginTick_eq]
  rcases (host.select m.system).1 with e | u
  · nofun
  · nofun

/-- A tick that looks at the ready queue answers if it is empty, and invokes a callback otherwise. -/
theorem drain_cases (host : Host σ α) {m : Machine σ α} (hm : m.system.reactor.WellFormed)
    (hd : m.isDraining = true) :
    (m.system.reactor.ready = [] ∧ ∃ c, m.tickAnswer host = some (.ok c)) ∨
      m.tickAnswer host = none ∧ ∃ h e, m.occurrence host = some (.invoked h e) := by
  unfold isDraining at hd
  split at hd
  · next c hc =>
    have hstep : m.step host = some (stepDrain host m.system c m.frames) := by simp [step, hc]
    rw [tickAnswer_of_step (by simp [isDraining, hc]) hstep]
    unfold stepDrain
    rcases Reactor.takeReady_cases hm with ⟨hq, hnone⟩ | ⟨h, e, r', hsome, htakes⟩
    · rw [hnone]
      exact Or.inl ⟨hq, c, rfl⟩
    · rw [hsome]
      refine Or.inr ⟨rfl, h, e, ?_⟩
      simp only [occurrence, hc, Reactor.dispatched, hsome, htakes.ready]
  · cases hd

theorem isDraining_of_ok {host : Host σ α} {m : Machine σ α} {c : Nat}
    (ha : m.tickAnswer host = some (.ok c)) : m.isDraining = true := by
  by_contra hd
  by_cases hb : m.begins host = true
  · exact tickAnswer_of_begins hb c ha
  · rw [tickAnswer_eq_none (eq_false_of_ne_true hb) (eq_false_of_ne_true hd)] at ha
    cases ha

/-- **A tick ends well when the ready queue is empty.** -/
theorem ready_of_tickAnswer {host : Host σ α} {m : Machine σ α} (hm : m.system.reactor.WellFormed)
    {c : Nat} (ha : m.tickAnswer host = some (.ok c)) : m.system.reactor.ready = [] := by
  rcases drain_cases host hm (isDraining_of_ok ha) with ⟨hq, -⟩ | ⟨hnone, -⟩
  · exact hq
  · rw [hnone] at ha
    cases ha

/-- A tick fails in the step that begins it, or not at all. -/
theorem begins_of_tickAnswer {host : Host σ α} {m : Machine σ α} (hm : m.system.reactor.WellFormed)
    {e : ReactorError} (ha : m.tickAnswer host = some (.error e)) : m.begins host = true := by
  by_contra hb
  by_cases hd : m.isDraining = true
  · rcases drain_cases host hm hd with ⟨-, c, hok⟩ | ⟨hnone, -⟩
    · rw [hok] at ha
      cases ha
    · rw [hnone] at ha
      cases ha
  · rw [tickAnswer_eq_none (eq_false_of_ne_true hb) (eq_false_of_ne_true hd)] at ha
    cases ha

/-- What a step that neither begins a tick nor looks at the ready queue does to the frames. -/
inductive Reframes (m m' : Machine σ α) : Prop where
  | keeps (frames : m'.frames = m.frames) (quiet : m'.isDraining = false)
  | suspends {frame : Frame σ α} (aside : frame.served? = none) (frames : m'.frames = frame :: m.frames)
      (quiet : m'.isDraining = false)
  | resumes {frame : Frame σ α} (aside : frame.served? = none) (frames : m.frames = frame :: m'.frames)
      (quiet : m'.isDraining = false)
  /-- A callback has returned, and its tick goes on. -/
  | returns {c : Nat} (frames : m.frames = .drain c :: m'.frames) (control : m'.control = .drain c)

theorem reframes_of_step {host : Host σ α} {m m' : Machine σ α} (hb : m.begins host = false)
    (hd : m.isDraining = false) (hs : m.step host = some m') : Reframes m m' := by
  unfold step at hs
  cases hc : m.control with
  | program p =>
    rw [hc] at hs
    cases p with
    | done =>
      dsimp only [stepProgram] at hs
      split at hs
      · next served frames hf =>
        cases hs
        exact .returns hf rfl
      · cases hs
    | tick next => simp [begins, hc] at hb
    | outside act next => cases hs; exact .keeps rfl rfl
    | register request next => cases hs; exact .keeps rfl rfl
    | cancel h next => cases hs; exact .keeps rfl rfl
    | isPending h next => cases hs; exact .keeps rfl rfl
    | lookup d callback next => cases hs; exact .keeps rfl rfl
    | status next => cases hs; exact .keeps rfl rfl
    | drive maxTicks next => cases hs; exact .suspends rfl rfl rfl
  | drain c => simp [isDraining, hc] at hd
  | driver ticks maxTicks =>
    rw [hc] at hs
    cases hs
    simp only [begins, willTick, hc, Bool.and_eq_false_iff, Bool.not_eq_false'] at hb
    unfold stepDriver
    split
    · exact .keeps rfl rfl
    · next hstop =>
      rw [if_pos (hb.resolve_left hstop)]
      exact .keeps rfl rfl
  | answer result =>
    rw [hc] at hs
    dsimp only at hs
    split at hs
    · next next frames hf =>
      cases hs
      exact .resumes rfl hf rfl
    · next ticks maxTicks frames hf =>
      cases hs
      have hframes : (afterTick host m.system ticks maxTicks result frames).frames = frames := by
        unfold afterTick
        split <;> rfl
      have hquiet : (afterTick host m.system ticks maxTicks result frames).isDraining = false := by
        unfold afterTick
        split <;> rfl
      exact .resumes rfl (hf.trans (by rw [hframes])) hquiet
    · cases hs

/-- A step that neither begins a tick nor looks at the ready queue leaves the ticks in progress alone. -/
theorem served_of_step {host : Host σ α} {m m' : Machine σ α} (hb : m.begins host = false)
    (hd : m.isDraining = false) (hs : m.step host = some m') : m'.served = m.served := by
  rw [served_of_not_drain hd]
  cases reframes_of_step hb hd hs with
  | keeps frames quiet => rw [served_of_not_drain quiet, frames]
  | suspends aside frames quiet => rw [served_of_not_drain quiet, frames, List.filterMap_cons_none aside]
  | resumes aside frames quiet => rw [served_of_not_drain quiet, frames, List.filterMap_cons_none aside]
  | returns frames control =>
    rw [served_of_drain control, frames]
    rfl

theorem begins_of_selection {host : Host σ α} {m : Machine σ α} {reported : List Conditions}
    {now : Instant} (ho : m.occurrence host = some (.selected reported now)) : m.begins host = true := by
  obtain ⟨⟨next, hc⟩ | hwill, -⟩ := exists_tick_of_occurrence ho
  · simp [begins, hc]
  · unfold begins
    split
    · rfl
    · exact hwill
    · next hnot =>
      unfold willTick at hwill
      split at hwill
      · next ticks maxTicks hc => exact absurd hc (hnot ticks maxTicks)
      · cases hwill

/-- **What a step does to the ticks in progress.** -/
theorem nests_of_step {host : Host σ α} {m m' : Machine σ α} (hm : m.system.reactor.WellFormed)
    (hs : m.step host = some m') :
    Nests (m.occurrence host) (m.tickAnswer host) m.served m'.served := by
  by_cases hb : m.begins host = true
  · exact nests_of_begins hb hs
  · by_cases hd : m.isDraining = true
    · unfold isDraining at hd
      split at hd
      · next c hc => exact nests_of_drain hm hc hs
      · cases hd
    · have hb' := eq_false_of_ne_true hb
      have hd' := eq_false_of_ne_true hd
      rw [tickAnswer_eq_none hb' hd', served_of_step hb' hd' hs]
      -- neither a selection nor an invocation can occur
      cases ho : m.occurrence host with
      | none => exact .stays rfl rfl
      | some o =>
        cases o with
        | registered h request due => exact .stays rfl rfl
        | cancelled h => exact .stays rfl rfl
        | selected reported now => exact absurd (begins_of_selection ho) hb
        | invoked h e =>
          obtain ⟨c, rest, r, hc, -, -⟩ := exists_drain_of_occurrence ho
          exact absurd (show m.isDraining = true by simp [isDraining, hc]) hd

/-! ## The ticks of a run -/

/-- What a tick answers with the step after a number of steps. -/
def tickAnswerAt (host : Host σ α) (m : Machine σ α) (k : Nat) : Option (Except ReactorError Nat) :=
  (m.run host k).tickAnswer host

/-- The steps with which the ticks in progress began, innermost first. -/
def ticking (host : Host σ α) (m : Machine σ α) : Nat → List Nat
  | 0 => []
  | k + 1 =>
    if (m.occurrenceAt host k).any Occurrence.isSelection then k :: ticking host m k
    else if (m.tickAnswerAt host k).any Except.isOk then (ticking host m k).tail
    else ticking host m k

/-- The notification that the step after a number of steps hands to its callback. -/
def invokedAt (host : Host σ α) (m : Machine σ α) (k : Nat) : Option (Handle × Event α) :=
  (m.occurrenceAt host k).bind Occurrence.invoked?

/-- All that was invoked in a number of steps, in order, with the steps. -/
def invocations (host : Host σ α) (m : Machine σ α) (n : Nat) : List (Nat × Handle × Event α) :=
  (List.range n).filterMap fun k => (m.invokedAt host k).map (k, ·)

/-- How many callbacks a tick has invoked itself in a number of steps. -/
def own (host : Host σ α) (m : Machine σ α) (t n : Nat) : Nat :=
  (m.invocations host n).countP fun i => (m.ticking host i.1).head? = some t

variable {host : Host σ α} {m : Machine σ α}

theorem invocations_succ (n : Nat) :
    m.invocations host (n + 1) =
      m.invocations host n ++ ((m.invokedAt host n).map (n, ·)).toList := by
  unfold invocations
  rw [List.range_succ, List.filterMap_append]
  cases hn : m.invokedAt host n <;> simp [hn]

theorem lt_of_mem_invocations {n : Nat} {i : Nat × Handle × Event α} (hi : i ∈ m.invocations host n) :
    i.1 < n := by
  obtain ⟨k, hk, hik⟩ := List.mem_filterMap.mp hi
  obtain ⟨q, -, rfl⟩ := Option.map_eq_some_iff.mp hik
  exact List.mem_range.mp hk

theorem own_succ_of_none {t n : Nat} (h : m.invokedAt host n = none) :
    m.own host t (n + 1) = m.own host t n := by
  unfold own
  rw [invocations_succ, h]
  simp

theorem own_succ_of_some {t n : Nat} (h : (m.invokedAt host n).isSome = true) :
    m.own host t (n + 1) =
      m.own host t n + if (m.ticking host n).head? = some t then 1 else 0 := by
  obtain ⟨q, hq⟩ := Option.isSome_iff_exists.mp h
  unfold own
  rw [invocations_succ, hq]
  simp [List.countP_append, List.countP_singleton]

theorem nests_at (host : Host σ α) (hm : m.system.reactor.WellFormed) (k : Nat) :
    Nests (m.occurrenceAt host k) (m.tickAnswerAt host k) (m.run host k).served
      (m.run host (k + 1)).served := by
  unfold occurrenceAt tickAnswerAt
  rw [run_succ]
  cases hs : (m.run host k).step host with
  | none =>
    have hanswer : (m.run host k).tickAnswer host = none := by
      unfold tickAnswer
      rw [hs]
      split <;> rfl
    rw [occurrence_of_step_eq_none hs, hanswer]
    exact .stays rfl rfl
  | some m' => exact nests_of_step (wellFormed_reactorAt host hm k) hs

/-- The ticks in progress began earlier, the inner ones after the outer ones. -/
theorem ticking_sorted (host : Host σ α) (m : Machine σ α) (k : Nat) :
    (m.ticking host k).Pairwise (· > ·) ∧ ∀ t ∈ m.ticking host k, t < k := by
  induction k with
  | zero => exact ⟨List.Pairwise.nil, nofun⟩
  | succ k ih =>
    have hlt : ∀ t ∈ m.ticking host k, t < k + 1 := fun t ht => Nat.lt_succ_of_lt (ih.2 t ht)
    unfold ticking
    split
    · refine ⟨List.pairwise_cons.mpr ⟨ih.2, ih.1⟩, ?_⟩
      rintro t (_ | ⟨_, ht⟩)
      · exact Nat.lt_succ_self k
      · exact hlt t ht
    · split
      · exact ⟨ih.1.tail, fun t ht => hlt t (List.mem_of_mem_tail ht)⟩
      · exact ⟨ih.1, hlt⟩

theorem own_of_le {t n : Nat} (hn : n ≤ t + 1) : m.own host t n = 0 := by
  refine List.countP_eq_zero.mpr fun i hi hhead => ?_
  have hmem : t ∈ m.ticking host i.1 := List.mem_of_head? (by simpa using hhead)
  have := (ticking_sorted host m i.1).2 t hmem
  have := lt_of_mem_invocations hi
  omega

theorem ticking_of_selection {k : Nat} (ho : (m.occurrenceAt host k).any Occurrence.isSelection = true) :
    m.ticking host (k + 1) = k :: m.ticking host k := by
  rw [ticking, if_pos ho]

theorem ticking_of_ok {k c : Nat} (ho : (m.occurrenceAt host k).any Occurrence.isSelection = false)
    (ha : m.tickAnswerAt host k = some (.ok c)) :
    m.ticking host (k + 1) = (m.ticking host k).tail := by
  rw [ticking, if_neg (by simp [ho]), ha]
  rfl

theorem ticking_of_rest {k : Nat} (ho : (m.occurrenceAt host k).any Occurrence.isSelection = false)
    (ha : (m.tickAnswerAt host k).any Except.isOk = false) :
    m.ticking host (k + 1) = m.ticking host k := by
  rw [ticking, if_neg (by simp [ho]), if_neg (by simp [ha])]

/-- **The ticks in progress have counted the callbacks that they invoked themselves.** -/
theorem served_eq (hm : m.system.reactor.WellFormed) (hnil : m.served = []) (n : Nat) :
    (m.run host n).served = (m.ticking host n).map fun t => m.own host t n := by
  induction n with
  | zero => exact hnil
  | succ n ih =>
    have hkeep : m.invokedAt host n = none →
        ∀ S : List Nat, S.map (fun t => m.own host t (n + 1)) = S.map fun t => m.own host t n :=
      fun hno S => List.map_congr_left fun t _ => own_succ_of_none hno
    have hnests := nests_at host hm n
    rw [ih] at hnests
    unfold invokedAt at hkeep
    generalize ho : m.occurrenceAt host n = o at hnests hkeep
    generalize ha : m.tickAnswerAt host n = answer at hnests
    generalize hl : (m.ticking host n).map (fun t => m.own host t n) = l at hnests
    generalize (m.run host (n + 1)).served = l' at hnests ⊢
    cases hnests with
    | @enters o l selects =>
      have hno : (some o).bind Occurrence.invoked? = none := by cases o <;> trivial
      rw [ticking_of_selection (by rwa [ho]), List.map_cons, own_of_le (Nat.le_refl _), hkeep hno, hl]
    | @invokes o c rest invoked =>
      have hsel : (some o).any Occurrence.isSelection = false := by cases o <;> trivial
      have hsome : (m.invokedAt host n).isSome = true := by rwa [invokedAt, ho]
      -- the innermost tick counts one more; the others began earlier, so they are other ticks
      have hsorted := (ticking_sorted host m n).1
      rw [ticking_of_rest (by rwa [ho]) (by rw [ha]; rfl)]
      cases hticks : m.ticking host n with
      | nil =>
        rw [hticks] at hl
        cases hl
      | cons t S =>
        rw [hticks] at hl hsorted
        obtain ⟨rfl, rfl⟩ := List.cons.inj hl
        have hother : ∀ u ∈ S, m.own host u (n + 1) = m.own host u n := by
          intro u hu
          have hlt : t > u := (List.pairwise_cons.mp hsorted).1 u hu
          rw [own_succ_of_some hsome, hticks, List.head?_cons, if_neg fun he => ?_]
          · rfl
          · rw [Option.some.inj he] at hlt
            exact Nat.lt_irrefl _ hlt
        rw [List.map_cons, List.map_congr_left hother, own_succ_of_some hsome, hticks, List.head?_cons,
          if_pos rfl]
    | @leaves c rest =>
      rw [ticking_of_ok (by rw [ho]; rfl) ha, hkeep rfl, List.map_tail, hl, List.tail_cons]
    | fails => rw [ticking_of_rest (by rw [ho]; rfl) (by rw [ha]; rfl), hkeep rfl, hl]
    | stays unselected uninvoked =>
      rw [ticking_of_rest (by rwa [ho]) (by rw [ha]; rfl), hkeep uninvoked, hl]

/-- What a step does to the ticks in progress of a run. -/
inductive Turn (host : Host σ α) (m : Machine σ α) (k : Nat) : Prop where
  | enters {reported : List Conditions} {now : Instant}
      (selects : m.occurrenceAt host k = some (.selected reported now))
      (unanswered : m.tickAnswerAt host k = none)
      (ticking : m.ticking host (k + 1) = k :: m.ticking host k)
  | invokes {h : Handle} {e : Event α} {t : Nat} {rest : List Nat}
      (invoked : m.occurrenceAt host k = some (.invoked h e))
      (unanswered : m.tickAnswerAt host k = none) (innermost : m.ticking host k = t :: rest)
      (ticking : m.ticking host (k + 1) = t :: rest)
  | leaves {t : Nat} {rest : List Nat} (quiet : m.occurrenceAt host k = none)
      (answer : m.tickAnswerAt host k = some (.ok (m.own host t k)))
      (innermost : m.ticking host k = t :: rest) (ticking : m.ticking host (k + 1) = rest)
  | fails {e : ReactorError} (quiet : m.occurrenceAt host k = none)
      (answer : m.tickAnswerAt host k = some (.error e))
      (ticking : m.ticking host (k + 1) = m.ticking host k)
  | stays (unselected : (m.occurrenceAt host k).any Occurrence.isSelection = false)
      (uninvoked : m.invokedAt host k = none) (unanswered : m.tickAnswerAt host k = none)
      (ticking : m.ticking host (k + 1) = m.ticking host k)

/-- **Every step of a run begins one tick on top of the others, lets the innermost invoke a callback, ends
it, or leaves all of them in progress.** -/
theorem turn_at (host : Host σ α) (hm : m.system.reactor.WellFormed) (hnil : m.served = []) (k : Nat) :
    m.Turn host k := by
  have hnests := nests_at host hm k
  rw [served_eq hm hnil k] at hnests
  have hinner : ∀ {c : Nat} {rest : List Nat},
      (m.ticking host k).map (fun t => m.own host t k) = c :: rest →
      ∃ t S, m.ticking host k = t :: S ∧ m.own host t k = c := by
    intro c rest hmap
    obtain ⟨t, S, hticks, hown, -⟩ := List.map_eq_cons_iff.mp hmap
    exact ⟨t, S, hticks, hown⟩
  generalize ho : m.occurrenceAt host k = o at hnests
  generalize ha : m.tickAnswerAt host k = answer at hnests
  generalize hl : (m.ticking host k).map (fun t => m.own host t k) = l at hnests
  generalize (m.run host (k + 1)).served = l' at hnests
  cases hnests with
  | @enters o l selects =>
    cases o with
    | selected reported now => exact .enters ho ha (ticking_of_selection (by rwa [ho]))
    | _ => cases selects
  | @invokes o c rest invoked =>
    cases o with
    | invoked h e =>
      obtain ⟨t, S, hticks, -⟩ := hinner hl
      exact .invokes ho ha hticks ((ticking_of_rest (by rw [ho]; rfl) (by rw [ha]; rfl)).trans hticks)
    | _ => cases invoked
  | @leaves c rest =>
    obtain ⟨t, S, hticks, rfl⟩ := hinner hl
    refine .leaves ho ha hticks ?_
    rw [ticking_of_ok (by rw [ho]; rfl) ha, hticks, List.tail_cons]
  | fails => exact .fails ho ha (ticking_of_rest (by rw [ho]; rfl) (by rw [ha]; rfl))
  | stays unselected uninvoked =>
    exact .stays (by rwa [ho]) (by rwa [invokedAt, ho]) ha
      (ticking_of_rest (by rwa [ho]) (by rw [ha]; rfl))

theorem innermost_of_invoked (hm : m.system.reactor.WellFormed) (hnil : m.served = []) {k : Nat}
    (hinv : (m.invokedAt host k).isSome = true) :
    ∃ t rest, m.ticking host k = t :: rest ∧ m.ticking host (k + 1) = t :: rest := by
  cases turn_at host hm hnil k with
  | invokes _ _ innermost next => exact ⟨_, _, innermost, next⟩
  | enters selects _ _ => rw [invokedAt, selects] at hinv; cases hinv
  | leaves quiet _ _ _ => rw [invokedAt, quiet] at hinv; cases hinv
  | fails quiet _ _ => rw [invokedAt, quiet] at hinv; cases hinv
  | stays _ uninvoked _ _ => rw [uninvoked] at hinv; cases hinv

/-- The innermost tick ends with the number of callbacks that it invoked itself. -/
theorem own_of_ok (hm : m.system.reactor.WellFormed) (hnil : m.served = []) {k c : Nat}
    (hanswer : m.tickAnswerAt host k = some (.ok c)) :
    m.occurrenceAt host k = none ∧
      ∃ t, m.ticking host k = t :: m.ticking host (k + 1) ∧ c = m.own host t k := by
  cases turn_at host hm hnil k with
  | leaves quiet answer innermost next =>
    rw [hanswer] at answer
    cases answer
    exact ⟨quiet, _, by rw [innermost, next], rfl⟩
  | enters _ unanswered _ => rw [hanswer] at unanswered; cases unanswered
  | invokes _ unanswered _ _ => rw [hanswer] at unanswered; cases unanswered
  | fails _ answer _ => rw [hanswer] at answer; cases answer
  | stays _ _ unanswered _ => rw [hanswer] at unanswered; cases unanswered

theorem ticking_of_error (hm : m.system.reactor.WellFormed) (hnil : m.served = []) {k : Nat}
    {e : ReactorError} (hanswer : m.tickAnswerAt host k = some (.error e)) :
    m.occurrenceAt host k = none ∧ m.ticking host (k + 1) = m.ticking host k := by
  cases turn_at host hm hnil k with
  | fails quiet _ next => exact ⟨quiet, next⟩
  | enters _ unanswered _ => rw [hanswer] at unanswered; cases unanswered
  | invokes _ unanswered _ _ => rw [hanswer] at unanswered; cases unanswered
  | leaves _ answer _ _ => rw [hanswer] at answer; cases answer
  | stays _ _ unanswered _ => rw [hanswer] at unanswered; cases unanswered

end Machine

end EventLoop
