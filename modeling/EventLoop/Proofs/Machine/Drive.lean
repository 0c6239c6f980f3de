import EventLoop.Proofs.Machine.Failure
import EventLoop.Proofs.Machine.Rounds
import EventLoop.Proofs.Machine.Wakeup

/-!
# The driver loop

The driver loop makes ticks one after another, until it is stopped, has made as many as it may, or is told that
one has failed. A callback may give the stop signal in the middle of a tick, which then goes on to its end.

* `exists_freed_of_mem_ready` — what leaves the ready queue was withdrawn or handed to its callback.
* `exists_answer_of_startsAt` — a tick of the loop ends, if its callbacks return.
* `drives_until_stopped` — when the loop begins a tick, and when and what it answers.
-/

namespace EventLoop

variable {σ α : Type}

namespace Machine

variable {host : Host σ α} {m : Machine σ α} {b n : Nat}

/-! ## What leaves the ready queue -/

/-- What stands in the ready queue stays there until it is withdrawn or handed to its callback. -/
theorem mem_ready_succ (hm : m.system.reactor.WellFormed) {h : Handle}
    (hh : h ∈ (m.reactorAt host n).ready) :
    h ∈ (m.reactorAt host (n + 1)).ready ∨ m.occurrenceAt host n = some (.cancelled h) ∨
      ∃ e, m.occurrenceAt host n = some (.invoked h e) := by
  have he := effect_at host hm n
  generalize m.occurrenceAt host n = o at he ⊢
  cases he with
  | none rests => exact Or.inl (rests.ready ▸ hh)
  | registered arms => exact Or.inl (arms.ready ▸ hh)
  | @cancelled _ _ h' withdraws =>
    by_cases heq : h = h'
    · subst heq
      exact Or.inr (Or.inl rfl)
    · refine Or.inl ?_
      rw [withdraws.ready]
      exact List.mem_filter.mpr ⟨hh, by simpa using heq⟩
  | selected selects =>
    refine Or.inl ?_
    rw [selects.ready]
    exact List.mem_append_left _ hh
  | @invoked _ _ h' e takes =>
    rw [takes.ready] at hh
    rcases List.mem_cons.mp hh with rfl | hin
    · exact Or.inr (Or.inr ⟨e, rfl⟩)
    · exact Or.inl hin

/-- **When the ready queue is empty, all that stood in it was withdrawn or handed to its callback.** -/
theorem exists_freed_of_mem_ready (hm : m.system.reactor.WellFormed) {i n : Nat} (hin : i ≤ n) {h : Handle}
    (hh : h ∈ (m.reactorAt host i).ready) (hempty : (m.reactorAt host n).ready = []) :
    ∃ k, i ≤ k ∧ k < n ∧ (m.occurrenceAt host k = some (.cancelled h) ∨
      ∃ e, m.occurrenceAt host k = some (.invoked h e)) := by
  by_contra hnone
  push Not at hnone
  have hstays : ∀ k, i ≤ k → k ≤ n → h ∈ (m.reactorAt host k).ready := by
    intro k hik
    induction k, hik using Nat.le_induction with
    | base => exact fun _ => hh
    | succ k hik ih =>
      intro hkn
      obtain ⟨hnot, hnot'⟩ := hnone k hik hkn
      rcases mem_ready_succ hm (ih (Nat.le_of_lt hkn)) with hk | hcancelled | ⟨e, hinvoked⟩
      · exact hk
      · exact absurd hcancelled hnot
      · exact absurd hinvoked (hnot' e)
  have hlast := hstays n hin (Nat.le_refl n)
  rw [hempty] at hlast
  cases hlast

/-! ## The end of a tick -/

section

variable {below : List (Frame σ α)} {most : Option UInt64} {s : Stage}

/-- Until the loop is told of its tick, the tick goes on. -/
theorem Tells.until (hm : m.system.reactor.WellFormed) {j made : Nat}
    (h : Tells host m below most b (j + 1) (.ticking made)) (hd : m.Driving host below.length b (j + 1))
    (hjn : j + 1 ≤ n) (hnone : ∀ k, j < k → k ≤ n → m.answeredAt host (below.length + 1) k = none) :
    m.Driving host below.length b n ∧ Tells host m below most b n (.ticking made) := by
  induction n, hjn using Nat.le_induction with
  | base => exact ⟨hd, h⟩
  | succ n hjn ih =>
    obtain ⟨hdn, hn⟩ := ih fun k hjk hkn => hnone k hjk (Nat.le_succ_of_le hkn)
    obtain ⟨s', hnext, hat⟩ := hn.exists_next hdn
    have htold : s'.told? = none :=
      hat.answered_succ_eq.symm.trans (hnone (n + 1) (Nat.lt_succ_of_lt hjn) le_rfl)
    cases hnext with
    | goes => exact ⟨hdn.succ hat.answered_eq, hn.next hm hdn.called .goes hat rfl⟩
    | drained => cases htold

theorem served_length (hm : m.system.reactor.WellFormed) (hnil : m.served = []) (n : Nat) :
    (m.run host n).served.length = (m.ticking host n).length := by
  rw [served_eq hm hnil, List.length_map]

/-- When the only tick above the loop ends, the loop is told. -/
theorem Tells.told_of_tickAnswer (hm : m.system.reactor.WellFormed) (hnil : m.served = []) {made c : Nat}
    (h : Tells host m below most b n (.ticking made))
    (hlength : (m.ticking host n).length = (below.filterMap Frame.served?).length + 1)
    (ha : m.tickAnswerAt host n = some (.ok c)) :
    ∃ c', m.answeredAt host (below.length + 1) (n + 1) = some (.ok c') := by
  have hserved := (served_length hm hnil n).trans hlength
  have hempty : (m.run host n).system.reactor.takeReady = none := by
    unfold Reactor.takeReady
    rw [ready_of_tickAnswer (wellFormed_reactorAt host hm n) ha]
  cases h.stage with
  | @looking _ c' hc hf =>
    refine ⟨c', ?_⟩
    rw [answeredAt, run_succ, step, hc, Option.getD_some, stepDrain, hempty, hf]
    exact (answered_of_answer rfl _).trans (if_pos List.length_cons)
  | @inside _ c' upper hf =>
    -- a tick inside of it would have counted its callbacks as well
    have hinner : (Frame.drain c' :: .driver made most :: below).filterMap Frame.served? =
        c' :: below.filterMap Frame.served? := rfl
    have hd := isDraining_of_ok ha
    unfold isDraining at hd
    split at hd
    · next hc =>
      rw [served_of_drain hc, hf, List.filterMap_append, hinner, List.length_cons, List.length_append,
        List.length_cons] at hserved
      omega
    · cases hd

/-- Until then the ticks in progress are those inside of the loop's own, this one, and those of before. -/
theorem ticking_until (hm : m.system.reactor.WellFormed) (hnil : m.served = []) {j made : Nat}
    (h : Tells host m below most b (j + 1) (.ticking made)) (hd : m.Driving host below.length b (j + 1))
    (hlength : (m.ticking host j).length = (below.filterMap Frame.served?).length)
    (hticks : m.ticking host (j + 1) = j :: m.ticking host j)
    (hjn : j + 1 ≤ n) (hnone : ∀ k, j < k → k ≤ n → m.answeredAt host (below.length + 1) k = none) :
    ∃ upper, m.ticking host n = upper ++ j :: m.ticking host j := by
  induction n, hjn using Nat.le_induction with
  | base => exact ⟨[], hticks⟩
  | succ n hjn ih =>
    have hnone' : ∀ k, j < k → k ≤ n → m.answeredAt host (below.length + 1) k = none :=
      fun k hjk hkn => hnone k hjk (Nat.le_succ_of_le hkn)
    obtain ⟨upper, hupper⟩ := ih hnone'
    cases turn_at host hm hnil n with
    | enters _ _ next => exact ⟨n :: upper, next.trans (congrArg _ hupper)⟩
    | invokes _ _ innermost next => exact ⟨upper, (next.trans innermost.symm).trans hupper⟩
    | leaves _ answer innermost next =>
      cases upper with
      | nil =>
        have hone : (m.ticking host n).length = (below.filterMap Frame.served?).length + 1 := by
          rw [hupper, List.nil_append, List.length_cons, hlength]
        obtain ⟨c, htold⟩ := (h.until hm hd hjn hnone').2.told_of_tickAnswer hm hnil hone answer
        rw [hnone (n + 1) (Nat.lt_succ_of_lt hjn) le_rfl] at htold
        cases htold
      | cons u upper =>
        obtain ⟨-, hrest⟩ := List.cons.inj (innermost.symm.trans hupper)
        exact ⟨upper, next.trans hrest⟩
    | fails _ _ next => exact ⟨upper, next.trans hupper⟩
    | stays _ _ _ next => exact ⟨upper, next.trans hupper⟩

/-- A tick whose callbacks return is not in progress for ever. -/
theorem exists_told (hm : m.system.reactor.WellFormed) (hnil : m.served = []) {j made : Nat}
    (h : Tells host m below most b (j + 1) (.ticking made)) (hd : m.Driving host below.length b (j + 1))
    (hlength : (m.ticking host j).length = (below.filterMap Frame.served?).length)
    (hdrain : (m.run host (j + 1)).isDraining = true)
    (hticks : m.ticking host (j + 1) = j :: m.ticking host j) (hreturn : CallbacksReturn host m j) :
    ∃ n, j < n ∧ (m.answeredAt host (below.length + 1) n).isSome = true := by
  by_contra hnever
  push Not at hnever
  have hnone : ∀ k, j < k → m.answeredAt host (below.length + 1) k = none := by
    intro k hjk
    exact Option.not_isSome_iff_eq_none.mp (hnever k hjk)
  -- the tick answers, when it is the innermost one again
  obtain ⟨n, hjn, hanswer, hhead⟩ := exists_answer hm hnil hreturn _ (j + 1) rfl hdrain (by rw [hticks]; rfl)
  have hnone' : ∀ k, j < k → k ≤ n → m.answeredAt host (below.length + 1) k = none :=
    fun k hjk _ => hnone k hjk
  obtain ⟨upper, hupper⟩ := ticking_until hm hnil h hd hlength hticks hjn hnone'
  have hone : (m.ticking host n).length = (below.filterMap Frame.served?).length + 1 := by
    cases upper with
    | nil => rw [hupper, List.nil_append, List.length_cons, hlength]
    | cons u upper =>
      -- what is inside of it began later
      have hsorted := (ticking_sorted host m n).1
      rw [hupper] at hsorted hhead
      obtain rfl : u = j := Option.some.inj hhead
      exact absurd ((List.pairwise_cons.mp hsorted).1 u (by simp)) (Nat.lt_irrefl u)
  obtain ⟨c, htold⟩ := (h.until hm hd hjn hnone').2.told_of_tickAnswer hm hnil hone hanswer
  rw [hnone (n + 1) (Nat.lt_succ_of_lt hjn)] at htold
  cases htold

/-- **A tick of the loop ends, if its callbacks return**, and the loop is told so. -/
theorem exists_answer_of_startsAt (hm : m.system.reactor.WellFormed) (hnil : m.served = [])
    (hcalled : Tells host m below most b (b + 1) (.deciding 0)) {j : Nat}
    (hd : m.Driving host below.length b j) (hs : m.startsAt host below.length j = true)
    {reported : List Conditions} {now : Instant}
    (ho : m.occurrenceAt host j = some (.selected reported now)) (hreturn : CallbacksReturn host m j) :
    ∃ n c, j < n ∧ m.Driving host below.length b n ∧
      m.answeredAt host (below.length + 1) n = some (.ok c) ∧
      ∀ k, j < k → k < n → m.answeredAt host (below.length + 1) k = none := by
  obtain ⟨s, h⟩ := exists_tells hm hcalled hd
  obtain ⟨made, rfl, hmay⟩ := h.deciding_of_startsAt hs
  obtain ⟨s', hnext, hat⟩ := h.exists_next hd
  cases hnext with
  | ends mayNot =>
    rw [hmay] at mayNot
    cases mayNot
  | fails may failed =>
    rw [select_of_selected ho] at failed
    cases failed
  | begins may selected =>
    have hticking := h.next hm hd.called (.begins may selected) hat rfl
    have hd' := hd.succ hat.answered_eq
    have hlength : (m.ticking host j).length = (below.filterMap Frame.served?).length := by
      rw [← served_length hm hnil]
      cases h.stage with
      | deciding hc hf => rw [served_of_not_drain (by rw [isDraining, hc]), hf]
    have hticks := ticking_of_selection (m := m) (k := j) (by rw [ho]; rfl)
    have hex := exists_told hm hnil hticking hd' hlength (isDraining_of_selected ho) hticks hreturn
    -- the first time that the loop is told
    classical
    obtain ⟨n, ⟨hjn, htold⟩, hfirst⟩ := Nat.findX hex
    have hnone : ∀ k, j < k → k < n → m.answeredAt host (below.length + 1) k = none := by
      intro k hjk hk
      exact Option.not_isSome_iff_eq_none.mp fun hsome => hfirst k hk ⟨hjk, hsome⟩
    have hne : n ≠ j + 1 := by
      rintro rfl
      rw [hticking.result_eq] at htold
      cases htold
    obtain ⟨k, rfl⟩ : ∃ k, n = k + 1 := ⟨n - 1, by omega⟩
    obtain ⟨hdk, hk⟩ := hticking.until hm hd' (show j + 1 ≤ k by omega) fun i hji hik =>
      hnone i hji (Nat.lt_succ_of_le hik)
    obtain ⟨s', hnext, hat⟩ := hk.exists_next hdk
    have hresult := hat.answered_succ_eq
    cases hnext with
    | goes =>
      rw [answeredAt, hresult] at htold
      cases htold
    | drained => exact ⟨k + 1, _, hjn, hdk.succ hat.answered_eq, hresult, hnone⟩

end

/-! ## What the loop does -/

/-- Does the loop decide: just called, or after a tick that it goes on after? -/
def Decides (host : Host σ α) (m : Machine σ α) (depth b n : Nat) : Prop :=
  n = b + 1 ∨ ∃ k result, n = k + 1 ∧ m.Driving host depth b k ∧
    m.answeredAt host (depth + 1) k = some result ∧ goesOn result = true

/-- The stop signal is not taken back. -/
def SignalStays (host : Host σ α) (m : Machine σ α) : Prop :=
  ∀ k, host.stopped (m.run host k).system.outside = true →
    host.stopped (m.run host (k + 1)).system.outside = true

/-- What the driver loop does that is called with a step, and what it does not do. Its own ticks, and its
answer, are those above a number of frames. -/
structure Drives (host : Host σ α) (m : Machine σ α) (depth b : Nat) (most : Option UInt64) : Prop where
  /-- Whatever stands below the loop stays there until it has answered. -/
  below : ∀ {n}, m.Driving host depth b n →
    ∃ upper, (m.run host (n + 1)).frames = upper ++ (m.run host (b + 1)).frames
  /-- When a tick begins, the signal is not given, there are fewer than there may be, and all have ended. -/
  begins : ∀ {n}, m.Driving host depth b n → m.startsAt host depth n = true →
    host.stopped (m.run host n).system.outside = false ∧
      (∀ w, most = some w → (m.startsSince host depth b n).length < w.toNat) ∧
      (m.resultsSince host depth b n).length = (m.startsSince host depth b n).length
  /-- Once the signal is given, none begins any more. -/
  never : ∀ {i n}, SignalStays host m → i ≤ n → host.stopped (m.run host i).system.outside = true →
    m.Driving host depth b n → m.startsAt host depth n = false
  /-- When the loop decides, one more tick begins … -/
  goesOn : ∀ {n}, m.Decides host depth b n → host.stopped (m.run host n).system.outside = false →
    (∀ w, most = some w → (m.startsSince host depth b n).length < w.toNat) →
    m.startsAt host depth n = true
  /-- … unless the signal is given or there are as many as there may be. Then it answers with their number. -/
  ends : ∀ {n}, m.Decides host depth b n →
    (host.stopped (m.run host n).system.outside = true ∨
      ∃ w, most = some w ∧ w.toNat ≤ (m.startsSince host depth b n).length) →
    m.answeredAt host depth (n + 1) = some (.ok (m.startsSince host depth b n).length)
  /-- It answers with a number when so many ticks have ended, each well or interrupted, and for such a
  reason. -/
  returns : ∀ {n c}, m.Driving host depth b n → m.answeredAt host depth (n + 1) = some (.ok c) →
    (m.startsSince host depth b (n + 1)).length = c ∧ (m.resultsSince host depth b (n + 1)).length = c ∧
      (∀ result ∈ m.resultsSince host depth b (n + 1),
        (∃ served, result = .ok served) ∨ result = .error .interrupted) ∧
      (host.stopped (m.run host n).system.outside = true ∨ ∃ w, most = some w ∧ w.toNat = c)
  /-- It answers with an error exactly when a tick has just failed, other than by an interruption. -/
  fails : ∀ {n e}, m.Driving host depth b n →
    (m.answeredAt host depth (n + 1) = some (.error e) ↔
      m.answeredAt host (depth + 1) n = some (.error e) ∧ e ≠ .interrupted)
  /-- That was the last tick, and the only one to fail. -/
  failed : ∀ {n e}, m.Driving host depth b n → m.answeredAt host depth (n + 1) = some (.error e) →
    (m.startsSince host depth b (n + 1)).length = (m.resultsSince host depth b (n + 1)).length ∧
      m.resultsSince host depth b (n + 1) = m.resultsSince host depth b n ++ [.error e] ∧
      ∀ result ∈ m.resultsSince host depth b n,
        (∃ served, result = .ok served) ∨ result = .error .interrupted
  /-- A tick fails in the step that begins it, or not at all. -/
  failsAtOnce : ∀ {n e}, m.Driving host depth b n → m.answeredAt host (depth + 1) n = some (.error e) →
    ∃ k, n = k + 1 ∧ m.Driving host depth b k ∧ m.startsAt host depth k = true ∧
      m.tickAnswerAt host k = some (.error e)
  /-- One whose callbacks return ends well, whatever they do, … -/
  finishes : ∀ {j reported now}, m.Driving host depth b j → m.startsAt host depth j = true →
    m.occurrenceAt host j = some (.selected reported now) → CallbacksReturn host m j →
    ∃ n c, j < n ∧ m.Driving host depth b n ∧ m.answeredAt host (depth + 1) n = some (.ok c) ∧
      ∀ k, j < k → k < n → m.answeredAt host (depth + 1) k = none
  /-- … and when it has, all that stood in the ready queue was withdrawn or handed to its callback. -/
  drains : ∀ {i n c}, m.Driving host depth b n → m.answeredAt host (depth + 1) n = some (.ok c) → i ≤ n →
    ∀ h ∈ (m.reactorAt host i).ready, ∃ k, i ≤ k ∧ k < n ∧
      (m.occurrenceAt host k = some (.cancelled h) ∨ ∃ e, m.occurrenceAt host k = some (.invoked h e))
  /-- If the callbacks run no ticks, the reactor counts as many as the loop answers. -/
  counts : ∀ {n c}, m.Driving host depth b n → m.answeredAt host depth (n + 1) = some (.ok c) →
    (∀ k, b < k → k < n → (m.run host k).begins host = true → m.startsAt host depth k = true) →
    (m.reactorAt host (n + 1)).counters.ticks = (m.reactorAt host b).counters.ticks + .ofNat c

theorem stopped_of_le (hstays : SignalStays host m) {i : Nat} (hin : i ≤ n)
    (hi : host.stopped (m.run host i).system.outside = true) :
    host.stopped (m.run host n).system.outside = true := by
  induction n, hin using Nat.le_induction with
  | base => exact hi
  | succ n _ ih => exact hstays n ih

theorem goesOn_eq_true {result : Except ReactorError Nat} :
    goesOn result = true ↔ (∃ served, result = .ok served) ∨ result = .error .interrupted := by
  cases result with
  | ok served => simp [goesOn]
  | error e => simp [goesOn]

section

variable {below : List (Frame σ α)} {most : Option UInt64} {s : Stage}

theorem Tells.of_decides (hm : m.system.reactor.WellFormed)
    (hcalled : Tells host m below most b (b + 1) (.deciding 0)) (hn : m.Decides host below.length b n) :
    ∃ made, m.Driving host below.length b n ∧ Tells host m below most b n (.deciding made) := by
  rcases hn with rfl | ⟨k, result, rfl, hd, htold, hgood⟩
  · refine ⟨0, ⟨Nat.lt_succ_self b, fun k hbk hk => ?_⟩, hcalled⟩
    obtain rfl : k = b + 1 := Nat.le_antisymm hk hbk
    exact hcalled.answeredAt_eq
  · obtain ⟨s, h⟩ := exists_tells hm hcalled hd
    obtain ⟨s', hnext, hat⟩ := h.exists_next hd
    rw [h.result_eq] at htold
    cases hnext with
    | resumes good => exact ⟨_, hd.succ hat.answered_eq, h.resume hm hd.called good hat⟩
    | givesUp bad =>
      cases htold
      exact absurd (by simpa [EventLoop.goesOn] using hgood) bad
    | _ => cases htold

/-- It answers with a number when it may make no more ticks. -/
theorem Tells.of_returns (h : Tells host m below most b n s) (hd : m.Driving host below.length b n) {c : Nat}
    (ha : m.answeredAt host below.length (n + 1) = some (.ok c)) :
    s = .deciding c ∧ (m.run host n).mayTick host most c = false := by
  obtain ⟨s', hnext, hat⟩ := h.exists_next hd
  rw [answeredAt, hat.answered_eq] at ha
  cases hnext with
  | ends mayNot =>
    cases ha
    exact ⟨rfl, mayNot⟩
  | _ => cases ha

/-- It answers with an error when it is told of it. -/
theorem Tells.of_fails (h : Tells host m below most b n s) (hd : m.Driving host below.length b n)
    {e : ReactorError} (ha : m.answeredAt host below.length (n + 1) = some (.error e)) :
    (∃ made, s = .told made (.error e)) ∧ e ≠ .interrupted := by
  obtain ⟨s', hnext, hat⟩ := h.exists_next hd
  rw [answeredAt, hat.answered_eq] at ha
  cases hnext with
  | givesUp bad =>
    cases ha
    exact ⟨⟨_, rfl⟩, bad⟩
  | _ => cases ha

theorem Tells.ends {made : Nat} (h : Tells host m below most b n (.deciding made))
    (hd : m.Driving host below.length b n) (hmay : (m.run host n).mayTick host most made = false) :
    m.answeredAt host below.length (n + 1) = some (.ok made) := by
  obtain ⟨s', hnext, hat⟩ := h.exists_next hd
  rw [answeredAt, hat.answered_eq]
  cases hnext with
  | ends => rfl
  | begins may =>
    rw [hmay] at may
    cases may
  | fails may =>
    rw [hmay] at may
    cases may

theorem Tells.not_begins_of_mayNot {made : Nat} (h : Tells host m below most b n (.deciding made))
    (hmay : (m.run host n).mayTick host most made = false) : (m.run host n).begins host = false := by
  cases h.stage with
  | deciding hc => simpa [begins, willTick, hc, mayTick] using hmay

theorem Tells.fails (h : Tells host m below most b n s) (hd : m.Driving host below.length b n)
    {e : ReactorError} (htold : m.answeredAt host (below.length + 1) n = some (.error e))
    (hbad : e ≠ .interrupted) : m.answeredAt host below.length (n + 1) = some (.error e) := by
  obtain ⟨s', hnext, hat⟩ := h.exists_next hd
  rw [h.result_eq] at htold
  rw [answeredAt, hat.answered_eq]
  cases hnext with
  | resumes good =>
    cases htold
    exact absurd (by simpa [EventLoop.goesOn] using good) hbad
  | givesUp =>
    cases htold
    rfl
  | _ => cases htold

theorem tickAnswerAt_of_failed (hb : (m.run host n).begins host = true) {e : ReactorError}
    (hfailed : (host.select (m.run host n).system).1 = .error e) :
    m.tickAnswerAt host n = some (.error e) := by
  obtain ⟨frame, -, hstep⟩ := step_of_begins hb
  rw [tickAnswerAt, tickAnswer_of_step (by rw [hb, Bool.true_or]) hstep, beginTick_eq, hfailed]

/-- The loop is told of an error right after the step that begins the tick. -/
theorem exists_failed (hm : m.system.reactor.WellFormed)
    (hcalled : Tells host m below most b (b + 1) (.deciding 0)) (hd : m.Driving host below.length b n)
    {e : ReactorError} (htold : m.answeredAt host (below.length + 1) n = some (.error e)) :
    ∃ k, n = k + 1 ∧ m.Driving host below.length b k ∧ m.startsAt host below.length k = true ∧
      (host.select (m.run host k).system).1 = .error e := by
  have hne : n ≠ b + 1 := by
    rintro rfl
    rw [hcalled.result_eq] at htold
    cases htold
  have hbn := hd.called
  obtain ⟨k, rfl⟩ : ∃ k, n = k + 1 := ⟨n - 1, by omega⟩
  have hdk := hd.of_le (show b < k by omega) (Nat.le_succ k)
  obtain ⟨s, h⟩ := exists_tells hm hcalled hdk
  obtain ⟨s', hnext, hat⟩ := h.exists_next hdk
  rw [answeredAt, hat.answered_succ_eq] at htold
  cases hnext with
  | fails may failed =>
    cases htold
    exact ⟨k, rfl, hdk, h.startsAt_eq.trans may, failed⟩
  | _ => cases htold

/-- All that the loop does follows from what its stages tell. -/
theorem drives_of_tells (hm : m.system.reactor.WellFormed) (hnil : m.served = [])
    (hcalled : Tells host m below most b (b + 1) (.deciding 0)) :
    m.Drives host below.length b most where
  below hd := by
    obtain ⟨s, h⟩ := exists_tells hm hcalled hd
    obtain ⟨s', -, hat⟩ := h.exists_next hd
    cases hcalled.stage with
    | deciding _ hf =>
      rw [hf]
      exact hat.exists_upper
  begins hd hs := by
    obtain ⟨s, h⟩ := exists_tells hm hcalled hd
    obtain ⟨made, rfl, hmay⟩ := h.deciding_of_startsAt hs
    obtain ⟨hmade, hbegun⟩ := h.lengths rfl
    obtain ⟨hstop, hlimit⟩ := mayTick_eq_true.mp hmay
    rw [hmade, hbegun]
    exact ⟨hstop, hlimit, rfl⟩
  never hstays hin hi hd := by
    obtain ⟨s, h⟩ := exists_tells hm hcalled hd
    refine eq_false_of_ne_true fun hs => ?_
    obtain ⟨made, -, hmay⟩ := h.deciding_of_startsAt hs
    exact absurd ((mayTick_eq_true.mp hmay).1.symm.trans (stopped_of_le hstays hin hi)) Bool.noConfusion
  goesOn hn hstop hlimit := by
    obtain ⟨made, hd, h⟩ := Tells.of_decides hm hcalled hn
    rw [(h.lengths rfl).2] at hlimit
    exact h.startsAt_eq.trans (mayTick_eq_true.mpr ⟨hstop, hlimit⟩)
  ends hn hwhy := by
    obtain ⟨made, hd, h⟩ := Tells.of_decides hm hcalled hn
    rw [(h.lengths rfl).2] at hwhy ⊢
    exact h.ends hd (mayTick_eq_false.mpr hwhy)
  returns hd ha := by
    obtain ⟨s, h⟩ := exists_tells hm hcalled hd
    obtain ⟨rfl, hmay⟩ := h.of_returns hd ha
    obtain ⟨hmade, hbegun⟩ := h.lengths rfl
    rw [startsSince_of_not_startsAt (h.startsAt_eq.trans hmay), resultsSince_of_not_answered h.result_eq]
    refine ⟨hbegun, hmade, fun result hmem => goesOn_eq_true.mp (h.good result hmem), ?_⟩
    rcases mayTick_eq_false.mp hmay with hstop | ⟨w, hw, hle⟩
    · exact Or.inl hstop
    · exact Or.inr ⟨w, hw, Nat.le_antisymm hle (hbegun ▸ h.within w hw)⟩
  fails hd := by
    obtain ⟨s, h⟩ := exists_tells hm hcalled hd
    refine ⟨fun ha => ?_, fun ⟨htold, hbad⟩ => h.fails hd htold hbad⟩
    obtain ⟨⟨made, rfl⟩, hbad⟩ := h.of_fails hd ha
    exact ⟨h.result_eq, hbad⟩
  failed hd ha := by
    obtain ⟨s, h⟩ := exists_tells hm hcalled hd
    obtain ⟨⟨made, rfl⟩, -⟩ := h.of_fails hd ha
    obtain ⟨hmade, hbegun⟩ := h.lengths rfl
    rw [startsSince_of_not_startsAt h.startsAt_eq, resultsSince_of_answered hd.called h.result_eq]
    refine ⟨?_, rfl, fun result hmem => goesOn_eq_true.mp (h.good result hmem)⟩
    rw [hbegun, List.length_append, hmade, List.length_singleton]
  failsAtOnce hd ha := by
    obtain ⟨k, rfl, hdk, hs, hfailed⟩ := exists_failed hm hcalled hd ha
    exact ⟨k, rfl, hdk, hs, tickAnswerAt_of_failed (begins_of_startsAt hs) hfailed⟩
  finishes hd hs ho hreturn := exists_answer_of_startsAt hm hnil hcalled hd hs ho hreturn
  drains hd ha hin h hh := by
    obtain ⟨s, htells⟩ := exists_tells hm hcalled hd
    exact exists_freed_of_mem_ready hm hin hh (htells.drained _ (htells.result_eq.symm.trans ha))
  counts hd ha hown := by
    obtain ⟨s, h⟩ := exists_tells hm hcalled hd
    obtain ⟨rfl, hmay⟩ := h.of_returns hd ha
    rw [ticks_of_not_begins hm (h.not_begins_of_mayNot hmay), h.counted hown rfl, (h.lengths rfl).2]

end

/-- **The driver loop makes ticks until it is stopped, has made as many as it may, or is told that one has
failed.** This holds of every call in every run, also inside of a callback. -/
theorem drives_until_stopped {y : System σ α} (hy : y.reactor.Initial) (host : Host σ α) (p : Program σ α)
    {b : Nat} {most : Option UInt64} {next : Except ReactorError Nat → Program σ α}
    (hcall : ((start y p).run host b).control = .program (.drive most next)) :
    (start y p).Drives host (((start y p).run host b).frames.length + 1) b most := by
  have hm : (start y p).system.reactor.WellFormed := Reactor.wellFormed_of_initial hy
  exact drives_of_tells hm rfl (tells_of_called hm hcall)

end Machine

/-! ## A callback that gives the stop signal -/

/-- Surroundings in which every descriptor can be read, and every callback gives the stop signal. -/
def Host.stoppable : Host Bool Unit where
  memory _ := .unbounded
  now s := (.ok .origin, s)
  wait entries _ s := (.ok (entries.map fun _ => .input), s)
  notify _ s := s
  stopped s := s
  callback _ _ := .act (fun _ => true) .done

/-- Registers for reading twice and runs the driver loop. -/
def Program.readUntilStopped : Program Bool Unit :=
  .register .toRead fun _ => .register .toRead fun _ => .drive none fun _ => .done

namespace Machine

/-- The first of two callbacks gives the signal. The second is invoked all the same, then the loop answers. -/
theorem drives_until_callback_stops :
    System.unsignalled.reactor.Initial ∧
      ((start .unsignalled .readUntilStopped).run .stoppable 2).control =
        .program (.drive none fun _ => .done) ∧
      (start .unsignalled .readUntilStopped).Drives .stoppable 1 2 none ∧
      Host.stoppable.stopped ((start .unsignalled .readUntilStopped).run .stoppable 6).system.outside = true ∧
      ((start .unsignalled .readUntilStopped).reactorAt .stoppable 6).ready =
        [{ index := 1, generation := 0 }] ∧
      (start .unsignalled .readUntilStopped).answeredAt .stoppable 1 13 = some (.ok 1) :=
  ⟨.empty _, rfl,
    drives_until_stopped (y := .unsignalled) (.empty _) .stoppable .readUntilStopped (b := 2) rfl, rfl, rfl,
    rfl⟩

end Machine

end EventLoop
