import EventLoop.Proofs.Machine.Drive

/-!
# The count of the driver loop

The driver loop counts its ticks in a natural number. A count in a word of 64 bits tells the same: no loop makes more
ticks than it may, or more than the run has steps, so the word comes round only in a run of `2 ^ 64` steps of a loop
without a limit.

* `recounts_of_step` — what a step does to the driver loops that decide or wait for a tick.
* `counts_at` — their counts are within the steps made and within their limits.
* `count_fits_word` — the word holds the count, meets the limit when the count does, and takes one more tick.
* `answer_fits_word` — so does the number that the loop answers.
-/

namespace EventLoop

variable {σ α : Type}

namespace Machine

variable {host : Host σ α} {m m' : Machine σ α} {n made : Nat} {most : Option UInt64}

/-! ## One step -/

/-- What a step does to the driver loops of a machine: to the one that decides, and to those that wait for a tick. -/
inductive Recounts (m m' : Machine σ α) : Prop where
  /-- None decides now, and none has begun to wait. -/
  | rests (undecided : ∀ made most, m'.control ≠ .driver made most)
      (waiting : ∀ made most, .driver made most ∈ m'.frames → .driver made most ∈ m.frames)
  /-- One is called. -/
  | called {most : Option UInt64} (control : m'.control = .driver 0 most)
      (waiting : ∀ made most, .driver made most ∈ m'.frames → .driver made most ∈ m.frames)
  /-- The one that decided begins a tick. -/
  | begins {made : Nat} {most : Option UInt64} (control : m.control = .driver made most)
      (below : isLimit made most = false) (undecided : ∀ made most, m'.control ≠ .driver made most)
      (frames : m'.frames = .driver made most :: m.frames)
  /-- One goes on after its tick. -/
  | resumes {made : Nat} {most : Option UInt64} (frames : m.frames = .driver made most :: m'.frames)
      (control : m'.control = .driver (made + 1) most)

theorem undecided_of_beginTick (y : System σ α) (frames : List (Frame σ α)) (made : Nat)
    (most : Option UInt64) : (beginTick host y frames).control ≠ .driver made most := by
  rw [beginTick_eq]
  dsimp only
  split <;> nofun

theorem recounts_of_program {p : Program σ α} (hs : stepProgram host m.system m.frames p = some m') :
    Recounts m m' := by
  have hcaller : ∀ next made most, Frame.driver made most ∈ .caller next :: m.frames →
      .driver made most ∈ m.frames := fun _ _ _ hf => (List.mem_cons.mp hf).resolve_left nofun
  cases p with
  | done =>
    dsimp only [stepProgram] at hs
    split at hs
    · next hf =>
      cases hs
      refine .rests nofun fun made most hmem => ?_
      rw [hf]
      exact List.mem_cons_of_mem _ hmem
    · cases hs
  | tick next =>
    cases hs
    refine .rests (undecided_of_beginTick _ _) fun made most hmem => ?_
    rw [beginTick_eq] at hmem
    exact hcaller next made most hmem
  | drive most next => cases hs; exact .called rfl (hcaller next)
  | outside act next => cases hs; exact .rests nofun fun _ _ => id
  | register request next => cases hs; exact .rests nofun fun _ _ => id
  | cancel h next => cases hs; exact .rests nofun fun _ _ => id
  | isPending h next => cases hs; exact .rests nofun fun _ _ => id
  | lookup d callback next => cases hs; exact .rests nofun fun _ _ => id
  | status next => cases hs; exact .rests nofun fun _ _ => id

theorem recounts_of_drain (host : Host σ α) (m : Machine σ α) (c : Nat) :
    Recounts m (stepDrain host m.system c m.frames) := by
  unfold stepDrain
  split
  · exact .rests nofun fun _ _ => id
  · exact .rests nofun fun _ _ => id
  · exact .rests nofun fun _ _ hf => (List.mem_cons.mp hf).resolve_left nofun

theorem recounts_of_driver (hc : m.control = .driver made most) :
    Recounts m (stepDriver host m.system made most m.frames) := by
  unfold stepDriver
  split
  · exact .rests nofun fun _ _ => id
  · split
    · exact .rests nofun fun _ _ => id
    · next hlimit =>
      refine .begins hc (eq_false_of_ne_true hlimit) (undecided_of_beginTick _ _) ?_
      rw [beginTick_eq]

theorem recounts_of_told {result : Except ReactorError Nat} {frames : List (Frame σ α)}
    (hf : m.frames = .driver made most :: frames) :
    Recounts m (afterTick host m.system made most result frames) := by
  unfold afterTick
  split
  · exact .resumes hf rfl
  · exact .resumes hf rfl
  · refine .rests nofun fun made most hmem => ?_
    rw [hf]
    exact List.mem_cons_of_mem _ hmem

/-- **A step calls one driver loop, lets one begin a tick or go on after one, or none.** -/
theorem recounts_of_step (hs : m.step host = some m') : Recounts m m' := by
  unfold step at hs
  cases hc : m.control with
  | program p =>
    rw [hc] at hs
    exact recounts_of_program hs
  | drain c =>
    rw [hc] at hs
    cases hs
    exact recounts_of_drain host m c
  | driver made most =>
    rw [hc] at hs
    cases hs
    exact recounts_of_driver hc
  | answer result =>
    rw [hc] at hs
    dsimp only at hs
    split at hs
    · next next frames hf =>
      cases hs
      refine .rests nofun fun made most hmem => ?_
      rw [hf]
      exact List.mem_cons_of_mem _ hmem
    · next hf =>
      cases hs
      exact recounts_of_told hf
    · cases hs

/-! ## Along a run -/

/-- The driver loops of a machine have made no more ticks than there were steps, or than each of them may. -/
structure Counts (m : Machine σ α) (n : Nat) : Prop where
  deciding : ∀ {made most}, m.control = .driver made most → made ≤ n ∧ ∀ w, most = some w → made ≤ w.toNat
  /-- One that waits for its tick may make this one, too. -/
  waiting : ∀ {made most}, .driver made most ∈ m.frames → made < n ∧ ∀ w, most = some w → made < w.toNat

theorem Counts.succ (h : m.Counts n) : m.Counts (n + 1) :=
  ⟨fun hc => (h.deciding hc).imp_left Nat.le_succ_of_le, fun hf => (h.waiting hf).imp_left Nat.lt_succ_of_lt⟩

theorem Counts.of_recounts (h : m.Counts n) (hr : Recounts m m') : m'.Counts (n + 1) := by
  cases hr with
  | rests undecided waiting =>
    exact ⟨fun hc => absurd hc (undecided _ _), fun hf => h.succ.waiting (waiting _ _ hf)⟩
  | called control waiting =>
    refine ⟨fun hc => ?_, fun hf => h.succ.waiting (waiting _ _ hf)⟩
    rw [control] at hc
    cases hc
    exact ⟨Nat.zero_le _, fun _ _ => Nat.zero_le _⟩
  | begins control below undecided frames =>
    refine ⟨fun hc => absurd hc (undecided _ _), fun hf => ?_⟩
    rw [frames] at hf
    rcases List.mem_cons.mp hf with heq | hf
    · cases heq
      exact ⟨Nat.lt_succ_of_le (h.deciding control).1, isLimit_eq_false.mp below⟩
    · exact h.succ.waiting hf
  | resumes frames control =>
    obtain ⟨hsteps, hlimit⟩ := h.waiting (by rw [frames]; exact List.mem_cons_self)
    refine ⟨fun hc => ?_, fun hf => h.succ.waiting (by rw [frames]; exact List.mem_cons_of_mem _ hf)⟩
    rw [control] at hc
    cases hc
    exact ⟨Nat.succ_le_succ (Nat.le_of_lt hsteps), hlimit⟩

/-- **The counts of all driver loops are within the steps made and within their limits.** The induction is on the
number of steps. -/
theorem counts_at (host : Host σ α) (y : System σ α) (p : Program σ α) (n : Nat) :
    ((start y p).run host n).Counts n := by
  induction n with
  | zero => exact ⟨nofun, nofun⟩
  | succ n ih =>
    rw [run_succ]
    cases hs : ((start y p).run host n).step host with
    | none => exact ih.succ
    | some m' => exact ih.of_recounts (recounts_of_step hs)

/-! ## Words -/

/-- A limit is met in words when it is met in numbers. -/
theorem isLimit_eq_any_le (hmade : made < 2 ^ 64) :
    isLimit made most = most.any fun w => w ≤ UInt64.ofNat made := by
  cases most with
  | none => rfl
  | some w => simp [isLimit, UInt64.le_iff_toNat_le, UInt64.toNat_ofNat_of_lt' hmade]

/-- A number within the steps made and within the limit is one of 64 bits, if there is a limit or if the steps are
few. -/
theorem lt_word_of_le (h : made ≤ n ∧ ∀ w, most = some w → made ≤ w.toNat)
    (hfits : most.isSome = true ∨ n < 2 ^ 64) : made < 2 ^ 64 := by
  obtain ⟨hsteps, hlimit⟩ := h
  rcases hfits with hsome | hn
  · obtain ⟨w, hw⟩ := Option.isSome_iff_exists.mp hsome
    exact Nat.lt_of_le_of_lt (hlimit w hw) w.toNat_lt
  · exact Nat.lt_of_le_of_lt hsteps hn

/-- **A count in a word of 64 bits tells the same** of every driver loop that has a limit, and of every other before
`2 ^ 64` steps are made. When the loop decides, the word holds the count and meets the limit when the count does; while
it waits, one more tick does not bring the word round. -/
theorem count_fits_word (host : Host σ α) (y : System σ α) (p : Program σ α)
    (hfits : most.isSome = true ∨ n < 2 ^ 64) :
    (((start y p).run host n).control = .driver made most →
      (UInt64.ofNat made).toNat = made ∧
        isLimit made most = most.any fun w => w ≤ UInt64.ofNat made) ∧
      (.driver made most ∈ ((start y p).run host n).frames → (UInt64.ofNat made + 1).toNat = made + 1) := by
  have h := counts_at host y p n
  refine ⟨fun hc => ?_, fun hf => ?_⟩
  · have hmade := lt_word_of_le (h.deciding hc) hfits
    exact ⟨UInt64.toNat_ofNat_of_lt' hmade, isLimit_eq_any_le hmade⟩
  · have hmade : made + 1 < 2 ^ 64 := lt_word_of_le (h.waiting hf) hfits
    rw [show UInt64.ofNat made + 1 = UInt64.ofNat (made + 1) from (UInt64.ofNat_add made 1).symm,
      UInt64.toNat_ofNat_of_lt' hmade]

/-- **The number that the driver loop answers fits a word of 64 bits**, under the same conditions. -/
theorem answer_fits_word {y : System σ α} (hy : y.reactor.Initial) (host : Host σ α) (p : Program σ α)
    {b c : Nat} {next : Except ReactorError Nat → Program σ α}
    (hcall : ((start y p).run host b).control = .program (.drive most next))
    (hfits : most.isSome = true ∨ n < 2 ^ 64)
    (hd : (start y p).Driving host (((start y p).run host b).frames.length + 1) b n)
    (ha : (start y p).answeredAt host (((start y p).run host b).frames.length + 1) (n + 1) = some (.ok c)) :
    (UInt64.ofNat c).toNat = c := by
  have hm : (start y p).system.reactor.WellFormed := Reactor.wellFormed_of_initial hy
  obtain ⟨s, h⟩ := exists_tells hm (tells_of_called hm hcall) hd
  obtain ⟨rfl, -⟩ := h.of_returns hd ha
  cases h.stage with
  | deciding control _ =>
    exact UInt64.toNat_ofNat_of_lt' (lt_word_of_le ((counts_at host y p n).deciding control) hfits)

end Machine

end EventLoop
