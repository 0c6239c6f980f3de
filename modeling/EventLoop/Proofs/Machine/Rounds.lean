import EventLoop.Proofs.Machine.Account
import EventLoop.Proofs.Machine.Stage

/-!
# The ticks of the driver loop

A program may run the driver loop anywhere, and the callbacks of its ticks do what they like, the stop signal
included. The ticks of the loop itself are read off a run by the number of frames below them:
`Machine.startsSince` are the steps with which they began, and `Machine.resultsSince` is what they answered.

* `countP_tickExchanges` — a tick that goes well, or that is interrupted, has waited once.
* `Machine.Tells` — what the loop has done until it is at a stage.
* `exists_tells` — it is at a stage until it answers.
-/

namespace EventLoop

variable {σ α : Type}

namespace Machine

/-! ## The ticks of the loop -/

/-- What is answered above a number of frames after a number of steps. -/
def answeredAt (host : Host σ α) (m : Machine σ α) (depth k : Nat) : Option (Except ReactorError Nat) :=
  (m.run host k).answered depth

/-- Does the step after a number of steps begin a tick above a number of frames? -/
def startsAt (host : Host σ α) (m : Machine σ α) (depth k : Nat) : Bool :=
  (m.run host k).startsTick host depth

/-- The ticks that began above a number of frames since a step, by the steps with which they began. -/
def startsSince (host : Host σ α) (m : Machine σ α) (depth b n : Nat) : List Nat :=
  (List.range n).filter fun k => decide (b < k) && m.startsAt host depth k

/-- What they answered. -/
def resultsSince (host : Host σ α) (m : Machine σ α) (depth b n : Nat) : List (Except ReactorError Nat) :=
  (List.range n).filterMap fun k => if b < k then m.answeredAt host (depth + 1) k else none

/-- The driver loop that was called with a step has not answered yet. -/
structure Driving (host : Host σ α) (m : Machine σ α) (depth b n : Nat) : Prop where
  called : b < n
  unanswered : ∀ k, b < k → k ≤ n → m.answeredAt host depth k = none

variable {host : Host σ α} {m : Machine σ α} {depth b n : Nat}

theorem startsSince_called : m.startsSince host depth b (b + 1) = [] := by
  refine List.filter_eq_nil_iff.mpr fun k hk => ?_
  have := List.mem_range.mp hk
  simp [show ¬b < k by omega]

theorem resultsSince_called : m.resultsSince host depth b (b + 1) = [] := by
  refine List.filterMap_eq_nil_iff.mpr fun k hk => ?_
  have := List.mem_range.mp hk
  exact if_neg (by omega)

theorem startsSince_of_startsAt (hbn : b < n) (hs : m.startsAt host depth n = true) :
    m.startsSince host depth b (n + 1) = m.startsSince host depth b n ++ [n] := by
  unfold startsSince
  rw [List.range_succ, List.filter_append, List.filter_cons_of_pos (by simp [hbn, hs]), List.filter_nil]

theorem startsSince_of_not_startsAt (hs : m.startsAt host depth n = false) :
    m.startsSince host depth b (n + 1) = m.startsSince host depth b n := by
  unfold startsSince
  rw [List.range_succ, List.filter_append, List.filter_cons_of_neg (by simp [hs]), List.filter_nil,
    List.append_nil]

theorem resultsSince_of_answered (hbn : b < n) {result : Except ReactorError Nat}
    (ha : m.answeredAt host (depth + 1) n = some result) :
    m.resultsSince host depth b (n + 1) = m.resultsSince host depth b n ++ [result] := by
  unfold resultsSince
  rw [List.range_succ, List.filterMap_append, List.filterMap_cons_some (by rw [if_pos hbn, ha]),
    List.filterMap_nil]

theorem resultsSince_of_not_answered (ha : m.answeredAt host (depth + 1) n = none) :
    m.resultsSince host depth b (n + 1) = m.resultsSince host depth b n := by
  unfold resultsSince
  rw [List.range_succ, List.filterMap_append, List.filterMap_cons_none (by rw [ha, ite_self]),
    List.filterMap_nil, List.append_nil]

theorem Driving.of_le (hd : m.Driving host depth b n) {k : Nat} (hbk : b < k) (hkn : k ≤ n) :
    m.Driving host depth b k :=
  ⟨hbk, fun i hbi hik => hd.unanswered i hbi (Nat.le_trans hik hkn)⟩

theorem Driving.succ (hd : m.Driving host depth b n) (ha : m.answeredAt host depth (n + 1) = none) :
    m.Driving host depth b (n + 1) := by
  refine ⟨Nat.lt_succ_of_lt hd.called, fun k hbk hk => ?_⟩
  rcases Nat.lt_or_eq_of_le hk with hlt | rfl
  · exact hd.unanswered k hbk (Nat.le_of_lt_succ hlt)
  · exact ha

/-! ## The signal and the limit -/

theorem isLimit_eq_false {made : Nat} {most : Option UInt64} :
    isLimit made most = false ↔ ∀ w, most = some w → made < w.toNat := by
  cases most with
  | none => simp [isLimit]
  | some w => simp [isLimit]

theorem mayTick_eq_true {most : Option UInt64} {made : Nat} :
    m.mayTick host most made = true ↔
      host.stopped m.system.outside = false ∧ ∀ w, most = some w → made < w.toNat := by
  rw [mayTick, Bool.and_eq_true, Bool.not_eq_true', Bool.not_eq_true', isLimit_eq_false]

theorem mayTick_eq_false {most : Option UInt64} {made : Nat} :
    m.mayTick host most made = false ↔
      host.stopped m.system.outside = true ∨ ∃ w, most = some w ∧ w.toNat ≤ made := by
  rw [← Bool.not_eq_true, mayTick_eq_true, not_and_or, Bool.not_eq_false]
  simp only [not_forall, Nat.not_lt, exists_prop]

/-! ## What a tick counts -/

theorem countP_dueExchanges (host : Host σ α) (y : System σ α) (timeout : Timeout) :
    (host.dueExchanges y timeout).countP Exchange.isWait = 0 := by
  cases timeout <;> rfl

theorem countP_leftExchanges (host : Host σ α) (y : System σ α) (due : Option Instant) :
    (host.leftExchanges y due).countP Exchange.isWait = 0 := by
  cases due <;> rfl

/-- Only a tick waits. -/
theorem countP_exchanges_of_not_begins (hb : m.begins host = false) :
    (m.exchanges host).countP Exchange.isWait = 0 := by
  unfold begins at hb
  unfold exchanges
  split
  · exact countP_dueExchanges host _ _
  · next next hc =>
    rw [hc] at hb
    cases hb
  · next ticks most hc =>
    rw [hc] at hb
    rw [if_neg (by rw [show m.willTick host = false from hb]; exact Bool.false_ne_true)]
    rfl
  · rfl

/-- The clock is not interrupted. -/
theorem remaining_ne_interrupted {y y' : System σ α} {due : Option Instant} {e : ReactorError}
    (h : host.remaining y due = (.error e, y')) : e ≠ .interrupted := by
  unfold Host.remaining Host.readClock at h
  cases due with
  | none => cases h
  | some due =>
    rcases hnow : host.now y.outside with ⟨fault | t, s⟩
    · rw [hnow] at h
      cases h
      nofun
    · rw [hnow] at h
      cases h

/-- A tick that goes well, or that is interrupted, has waited once. -/
theorem countP_tickExchanges {y : System σ α}
    (h : (host.select y).1 = .ok () ∨ (host.select y).1 = .error .interrupted) :
    (host.tickExchanges y).countP Exchange.isWait = 1 := by
  unfold Host.select at h
  unfold Host.tickExchanges
  split
  · next hroom =>
    rw [if_pos hroom] at h
    dsimp only at h ⊢
    rw [List.countP_append, countP_leftExchanges, Nat.zero_add]
    rcases hleft : host.remaining (host.report (Reactor.pollSetNotice y.reactor) y)
      y.reactor.earliest with ⟨e | left, y₁⟩
    · rw [hleft] at h
      rcases h with h | h
      · cases h
      · exact absurd (Except.error.inj h) (remaining_ne_interrupted hleft)
    · dsimp only
      rw [List.countP_cons_of_pos (by rfl)]
      rcases host.await y₁ _ _ with ⟨e | reported, y₂⟩
      · rfl
      · rfl
  · next hroom =>
    rw [if_neg hroom] at h
    rcases h with h | h
    · cases h
    · cases h

theorem ticks_at (hm : m.system.reactor.WellFormed) (n : Nat) :
    (m.reactorAt host (n + 1)).counters.ticks =
      (m.reactorAt host n).counters.ticks +
        .ofNat (((m.run host n).exchanges host).countP Exchange.isWait) := by
  rw [counters_at host hm n, (Counters.happen_ticks_errors _ _).1, Counters.ticks_tally]

theorem ticks_of_not_begins (hm : m.system.reactor.WellFormed) (hb : (m.run host n).begins host = false) :
    (m.reactorAt host (n + 1)).counters.ticks = (m.reactorAt host n).counters.ticks := by
  rw [ticks_at hm, countP_exchanges_of_not_begins hb]
  exact UInt64.add_zero _

theorem ticks_of_begins (hm : m.system.reactor.WellFormed) (hb : (m.run host n).begins host = true)
    (hsel : (host.select (m.run host n).system).1 = .ok () ∨
      (host.select (m.run host n).system).1 = .error .interrupted) :
    (m.reactorAt host (n + 1)).counters.ticks = (m.reactorAt host n).counters.ticks + 1 := by
  rw [ticks_at hm, exchanges_of_begins hb, countP_tickExchanges hsel]
  rfl

/-! ## The stages of a run -/

/-- What the loop, called with a step, has done until it is at a stage. -/
structure Tells (host : Host σ α) (m : Machine σ α) (below : List (Frame σ α)) (most : Option UInt64)
    (b n : Nat) (s : Stage) : Prop where
  stage : AtStage below most (m.run host n) s
  ticks : s.ticks? = some ((m.resultsSince host below.length b n).length,
    (m.startsSince host below.length b n).length)
  /-- It went on after all that its ticks have answered. -/
  good : ∀ result ∈ m.resultsSince host below.length b n, goesOn result = true
  /-- It has made no more ticks than it may. -/
  within : ∀ w, most = some w → (m.startsSince host below.length b n).length ≤ w.toNat
  /-- A tick that ended well has left the ready queue empty. -/
  drained : ∀ c, s.told? = some (.ok c) → (m.reactorAt host n).ready = []
  /-- If the callbacks run no ticks, its own ticks are counted, but not one that failed. -/
  counted : (∀ k, b < k → k < n → (m.run host k).begins host = true → m.startsAt host below.length k = true) →
    s.told?.all goesOn = true →
      (m.reactorAt host n).counters.ticks =
        (m.reactorAt host b).counters.ticks + .ofNat (m.startsSince host below.length b n).length

section

variable {below : List (Frame σ α)} {most : Option UInt64} {s s' : Stage}

theorem Tells.lengths (h : Tells host m below most b n s) {made begun : Nat}
    (hs : s.ticks? = some (made, begun)) :
    (m.resultsSince host below.length b n).length = made ∧
      (m.startsSince host below.length b n).length = begun := by
  have hticks := h.ticks
  rw [hs] at hticks
  exact Prod.mk.inj (Option.some.inj hticks.symm)

theorem Tells.answeredAt_eq (h : Tells host m below most b n s) :
    m.answeredAt host below.length n = s.ended? := h.stage.answered_eq

theorem Tells.result_eq (h : Tells host m below most b n s) :
    m.answeredAt host (below.length + 1) n = s.told? := h.stage.answered_succ_eq

theorem Tells.startsAt_eq (h : Tells host m below most b n s) :
    m.startsAt host below.length n = s.decides?.any ((m.run host n).mayTick host most) :=
  h.stage.startsTick_eq

/-- It begins a tick when it decides to. -/
theorem Tells.deciding_of_startsAt (h : Tells host m below most b n s)
    (hs : m.startsAt host below.length n = true) :
    ∃ made, s = .deciding made ∧ (m.run host n).mayTick host most made = true := by
  rw [h.startsAt_eq] at hs
  cases s with
  | deciding made => exact ⟨made, rfl, hs⟩
  | _ => cases hs

/-- A step that begins no tick of the loop begins none at all, if the callbacks run no ticks. -/
theorem Tells.not_begins (h : Tells host m below most b n s) (hs : s.decides? = none)
    (hown : (m.run host n).begins host = true → m.startsAt host below.length n = true) :
    (m.run host n).begins host = false := by
  refine eq_false_of_ne_true fun hb => ?_
  have hstarts := hown hb
  rw [h.startsAt_eq, hs] at hstarts
  cases hstarts

/-- So it leaves the count as it is. -/
theorem Tells.counted_succ (hm : m.system.reactor.WellFormed) (h : Tells host m below most b n s)
    (hbn : b < n) (hs : s.decides? = none) (hgood : s.told?.all goesOn = true)
    (hown : ∀ k, b < k → k < n + 1 → (m.run host k).begins host = true →
      m.startsAt host below.length k = true) :
    (m.reactorAt host (n + 1)).counters.ticks =
      (m.reactorAt host b).counters.ticks + .ofNat (m.startsSince host below.length b (n + 1)).length := by
  have hnot : m.startsAt host below.length n = false := by
    rw [h.startsAt_eq, hs]
    rfl
  have hb := h.not_begins hs (hown n hbn (Nat.lt_succ_self n))
  rw [ticks_of_not_begins hm hb, startsSince_of_not_startsAt hnot]
  exact h.counted (fun k hbk hk => hown k hbk (Nat.lt_succ_of_lt hk)) hgood

/-- From one moment to the next the loop goes on as its stage says. -/
theorem Tells.exists_next (h : Tells host m below most b n s) (hd : m.Driving host below.length b n) :
    ∃ s', Stage.Next host most (m.run host n) (m.run host (n + 1)) s s' ∧
      AtStage below most (m.run host (n + 1)) s' := by
  rw [run_succ]
  exact Machine.exists_next h.stage (hd.unanswered n hd.called (Nat.le_refl n))

theorem begins_of_startsAt {depth : Nat} (hs : m.startsAt host depth n = true) :
    (m.run host n).begins host = true := by
  unfold startsAt startsTick at hs
  exact (Bool.and_eq_true_iff.mp hs).1

/-- The loop makes one more tick, which goes on or has failed at once. -/
theorem Tells.start (hm : m.system.reactor.WellFormed) {made : Nat}
    (h : Tells host m below most b n (.deciding made)) (hbn : b < n)
    (may : (m.run host n).mayTick host most made = true) (hat : AtStage below most (m.run host (n + 1)) s')
    (hticks : s'.ticks? = some (made, made + 1)) (hundrained : ∀ c, s'.told? ≠ some (.ok c))
    (hsel : s'.told?.all goesOn = true → (host.select (m.run host n).system).1 = .ok () ∨
      (host.select (m.run host n).system).1 = .error .interrupted) :
    Tells host m below most b (n + 1) s' := by
  have hbegins : m.startsAt host below.length n = true := h.startsAt_eq.trans may
  have hresults := resultsSince_of_not_answered (b := b) h.result_eq
  have hstarts := startsSince_of_startsAt hbn hbegins
  obtain ⟨hmade, hbegun⟩ := h.lengths rfl
  refine ⟨hat, ?_, ?_, ?_, fun c hc => absurd hc (hundrained c), fun hown hgood => ?_⟩
  · rw [hticks, hresults, hstarts, List.length_append, List.length_singleton, hmade, hbegun]
  · rw [hresults]
    exact h.good
  · intro w hw
    rw [hstarts, List.length_append, List.length_singleton, hbegun]
    exact (mayTick_eq_true.mp may).2 w hw
  · have hbefore := h.counted (fun k hbk hk => hown k hbk (Nat.lt_succ_of_lt hk)) rfl
    rw [ticks_of_begins hm (begins_of_startsAt hbegins) (hsel hgood), hbefore, hstarts, List.length_append,
      UInt64.ofNat_add, UInt64.add_assoc]
    rfl

/-- Its tick goes on, or has just ended. -/
theorem Tells.stay (hm : m.system.reactor.WellFormed) {made : Nat}
    (h : Tells host m below most b n (.ticking made)) (hbn : b < n)
    (hat : AtStage below most (m.run host (n + 1)) s') (hticks : s'.ticks? = some (made, made + 1))
    (hdrained : ∀ c, s'.told? = some (.ok c) → (m.reactorAt host (n + 1)).ready = []) :
    Tells host m below most b (n + 1) s' := by
  have hresults := resultsSince_of_not_answered (b := b) h.result_eq
  have hstarts := startsSince_of_not_startsAt (b := b) h.startsAt_eq
  refine ⟨hat, ?_, ?_, ?_, hdrained, fun hown _ => h.counted_succ hm hbn rfl rfl hown⟩
  · rw [hticks, hresults, hstarts]
    exact h.ticks
  · rw [hresults]
    exact h.good
  · rw [hstarts]
    exact h.within

/-- It goes on after what its tick has answered. -/
theorem Tells.resume (hm : m.system.reactor.WellFormed) {made : Nat} {result : Except ReactorError Nat}
    (h : Tells host m below most b n (.told made result)) (hbn : b < n) (good : goesOn result = true)
    (hat : AtStage below most (m.run host (n + 1)) (.deciding (made + 1))) :
    Tells host m below most b (n + 1) (.deciding (made + 1)) := by
  have hresults := resultsSince_of_answered hbn h.result_eq
  have hstarts := startsSince_of_not_startsAt (b := b) h.startsAt_eq
  obtain ⟨hmade, hbegun⟩ := h.lengths rfl
  refine ⟨hat, ?_, ?_, ?_, nofun, fun hown _ => h.counted_succ hm hbn rfl (by simpa [Stage.told?]) hown⟩
  · rw [hresults, hstarts, List.length_append, List.length_singleton, hmade, hbegun]
    rfl
  · intro result' hmem
    rw [hresults, List.mem_append, List.mem_singleton] at hmem
    rcases hmem with hmem | rfl
    · exact h.good result' hmem
    · exact good
  · rw [hstarts]
    exact h.within

/-- The next stage tells of one moment more. -/
theorem Tells.next (hm : m.system.reactor.WellFormed) (h : Tells host m below most b n s) (hbn : b < n)
    (hnext : Stage.Next host most (m.run host n) (m.run host (n + 1)) s s')
    (hat : AtStage below most (m.run host (n + 1)) s') (hopen : s'.ended? = none) :
    Tells host m below most b (n + 1) s' := by
  cases hnext with
  | ends => cases hopen
  | begins may selected => exact h.start hm hbn may hat rfl nofun fun _ => Or.inl selected
  | @fails made e may failed =>
    refine h.start hm hbn may hat rfl nofun fun hgood => Or.inr ?_
    have he : e = .interrupted := by simpa [Stage.told?, goesOn] using hgood
    rw [failed, he]
  | goes => exact h.stay hm hbn hat rfl nofun
  | drained empty same =>
    refine h.stay hm hbn hat rfl fun _ _ => ?_
    rw [reactorAt, same]
    exact empty
  | resumes good => exact h.resume hm hbn good hat
  | givesUp => cases hopen

/-! ## From the call to the answer -/

theorem tells_of_called (hm : m.system.reactor.WellFormed) {next : Except ReactorError Nat → Program σ α}
    (hcall : (m.run host b).control = .program (.drive most next)) :
    Tells host m (.caller next :: (m.run host b).frames) most b (b + 1) (.deciding 0) := by
  have hb : (m.run host b).begins host = false := by simp [begins, hcall]
  have hrun : m.run host (b + 1) =
      { system := host.report (Driver.startNotice most) (m.run host b).system
        control := .driver 0 most
        frames := .caller next :: (m.run host b).frames } := by
    rw [run_succ, step, hcall]
    rfl
  refine ⟨?_, ?_, ?_, ?_, ?_, fun _ _ => ?_⟩
  · rw [hrun]
    exact .deciding rfl rfl
  · rw [resultsSince_called, startsSince_called]
    rfl
  · rw [resultsSince_called]
    exact List.forall_mem_nil _
  · rw [startsSince_called]
    exact fun _ _ => Nat.zero_le _
  · rintro c ⟨⟩
  · rw [ticks_of_not_begins hm hb, startsSince_called]
    exact (UInt64.add_zero _).symm

/-- **Until it answers, the loop is at a stage, which tells what it has done.** The induction is on the number
of steps since the call. -/
theorem exists_tells (hm : m.system.reactor.WellFormed)
    (hcalled : Tells host m below most b (b + 1) (.deciding 0)) (hd : m.Driving host below.length b n) :
    ∃ s, Tells host m below most b n s := by
  have hbn : b + 1 ≤ n := hd.called
  induction n, hbn using Nat.le_induction with
  | base => exact ⟨_, hcalled⟩
  | succ n hbn ih =>
    have hdn := hd.of_le hbn (Nat.le_succ n)
    obtain ⟨s, h⟩ := ih hdn
    obtain ⟨s', hnext, hat⟩ := h.exists_next hdn
    have hended : s'.ended? = none := hat.answered_eq.symm.trans (hd.unanswered (n + 1) hd.called le_rfl)
    exact ⟨s', h.next hm hbn hnext hat hended⟩

end

end Machine

end EventLoop
