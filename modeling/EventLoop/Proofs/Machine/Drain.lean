import EventLoop.Proofs.Machine.Fifo
import EventLoop.Proofs.Machine.Retry
import EventLoop.Proofs.Machine.Wakeup

/-!
# Ticks whose callbacks run no ticks

Such callbacks register and withdraw as they like. They may use a timeout that is over at once, and the slot of
what they withdrew from the ready queue. The tick still deals with what it found in the queue, and with nothing
else.

* `Machine.AtMostOneTick` — where a run is whose callbacks run no ticks.
* `callbacksReturn_of_tickFree` — every callback returns to its tick.
* `fates_since` — what a tick found in the queue it has invoked, in this order, unless that was withdrawn.
* `drains_what_it_queued` — a tick ends, and what is registered meanwhile has to wait for a later one.
-/

namespace EventLoop

variable {σ α : Type}

/-- Programs that run no ticks, whatever they are answered. -/
inductive Program.TickFree : Program σ α → Prop where
  | done : TickFree .done
  | outside {act : σ → σ} {next : σ → Program σ α} (h : ∀ s, (next s).TickFree) :
      TickFree (.outside act next)
  | register {request : Request α} {next : Except ReactorError Handle → Program σ α}
      (h : ∀ answer, (next answer).TickFree) : TickFree (.register request next)
  | cancel {k : Handle} {next : Except ReactorError Unit → Program σ α}
      (h : ∀ answer, (next answer).TickFree) : TickFree (.cancel k next)
  | isPending {k : Handle} {next : Bool → Program σ α} (h : ∀ answer, (next answer).TickFree) :
      TickFree (.isPending k next)
  | lookup {d : Descriptor} {callback : Callback} {next : Option Handle → Program σ α}
      (h : ∀ answer, (next answer).TickFree) : TickFree (.lookup d callback next)
  | status {next : Reactor.Status → Program σ α} (h : ∀ answer, (next answer).TickFree) :
      TickFree (.status next)

/-- Surroundings whose callbacks run no ticks. -/
def Host.TickFree (host : Host σ α) : Prop := ∀ callback e, (host.callback callback e).TickFree

namespace Machine

variable {host : Host σ α} {m m' : Machine σ α}

/-! ## Callbacks that run no ticks -/

/-- A program that runs no ticks was called by the tick that is suspended on top. -/
structure Calls (m : Machine σ α) (p : Program σ α) (c : Nat) (below : List (Frame σ α)) : Prop where
  control : m.control = .program p
  tickFree : p.TickFree
  frames : m.frames = .drain c :: below

section

variable {p q : Program σ α} {c j : Nat} {below : List (Frame σ α)}

theorem Calls.begins_eq (h : m.Calls p c below) : m.begins host = false := by
  unfold begins
  rw [h.control]
  cases h.tickFree <;> rfl

theorem Calls.isDraining_eq (h : m.Calls p c below) : m.isDraining = false := by
  unfold isDraining
  rw [h.control]

theorem Calls.step_eq (h : m.Calls p c below) :
    m.step host = stepProgram host m.system (.drain c :: below) p := by
  unfold step
  rw [h.control, h.frames]

theorem begins_of_isSelection (h : (m.occurrence host).any Occurrence.isSelection = true) :
    m.begins host = true := by
  obtain ⟨o, ho, hs⟩ := (Option.any_eq_true _ _).mp h
  cases o with
  | selected reported now => exact begins_of_selection ho
  | _ => cases hs

theorem not_isSelection_of_begins (hb : m.begins host = false) :
    (m.occurrence host).any Occurrence.isSelection = false := by
  by_contra hsel
  rw [begins_of_isSelection (eq_true_of_ne_false hsel)] at hb
  cases hb

/-- After one operation the program goes on, or the tick does. -/
theorem Calls.of_step (h : m.Calls p c below) (hs : m.step host = some m') :
    (m'.control = .drain c ∧ m'.frames = below) ∨ ∃ q, m'.Calls q c below := by
  rw [h.step_eq] at hs
  cases h.tickFree with
  | done => cases hs; exact Or.inl ⟨rfl, rfl⟩
  | outside hnext => cases hs; exact Or.inr ⟨_, rfl, hnext _, rfl⟩
  | register hnext => cases hs; exact Or.inr ⟨_, rfl, hnext _, rfl⟩
  | cancel hnext => cases hs; exact Or.inr ⟨_, rfl, hnext _, rfl⟩
  | isPending hnext => cases hs; exact Or.inr ⟨_, rfl, hnext _, rfl⟩
  | lookup hnext => cases hs; exact Or.inr ⟨_, rfl, hnext _, rfl⟩
  | status hnext => cases hs; exact Or.inr ⟨_, rfl, hnext _, rfl⟩

/-- No tick begins or ends with a step of such a program. -/
theorem Calls.ticking_succ (h : (m.run host j).Calls p c below) :
    m.ticking host (j + 1) = m.ticking host j := by
  refine ticking_of_rest (not_isSelection_of_begins h.begins_eq) ?_
  rw [tickAnswerAt, tickAnswer_eq_none h.begins_eq h.isDraining_eq]
  rfl

/-- The innermost tick looks at the queue at a later step, and no tick has begun or ended until then. -/
def Returns (host : Host σ α) (m : Machine σ α) (j : Nat) : Prop :=
  ∃ n, j < n ∧ (m.run host n).isDraining = true ∧ m.ticking host n = m.ticking host j

theorem Calls.returns_of_next (h : (m.run host j).Calls p c below)
    (hs : stepProgram host (m.run host j).system (.drain c :: below) p = some m') (hq : m'.Calls q c below)
    (ih : ∀ {j}, (m.run host j).Calls q c below → m.Returns host j) : m.Returns host j := by
  have hnext : m.run host (j + 1) = m' := by rw [run_succ, h.step_eq, hs, Option.getD_some]
  obtain ⟨n, hjn, hd, hticks⟩ := ih (j := j + 1) (hnext ▸ hq)
  exact ⟨n, Nat.lt_of_succ_lt hjn, hd, hticks.trans h.ticking_succ⟩

/-- **A program that runs no ticks returns to the tick that called it.** The induction is on the program. -/
theorem returns_of_tickFree (hp : p.TickFree) :
    ∀ {j}, (m.run host j).Calls p c below → m.Returns host j := by
  induction hp with
  | done =>
    intro j h
    refine ⟨j + 1, Nat.lt_succ_self j, ?_, h.ticking_succ⟩
    rw [run_succ, h.step_eq]
    rfl
  | outside hnext ih => exact fun h => h.returns_of_next rfl ⟨rfl, hnext _, rfl⟩ (ih _)
  | register hnext ih => exact fun h => h.returns_of_next rfl ⟨rfl, hnext _, rfl⟩ (ih _)
  | cancel hnext ih => exact fun h => h.returns_of_next rfl ⟨rfl, hnext _, rfl⟩ (ih _)
  | isPending hnext ih => exact fun h => h.returns_of_next rfl ⟨rfl, hnext _, rfl⟩ (ih _)
  | lookup hnext ih => exact fun h => h.returns_of_next rfl ⟨rfl, hnext _, rfl⟩ (ih _)
  | status hnext ih => exact fun h => h.returns_of_next rfl ⟨rfl, hnext _, rfl⟩ (ih _)

end

theorem exists_of_invokedAt {k : Nat} (hinv : (m.invokedAt host k).isSome = true) :
    ∃ h e, m.occurrenceAt host k = some (.invoked h e) := by
  obtain ⟨⟨h, e⟩, hq⟩ := Option.isSome_iff_exists.mp hinv
  exact ⟨h, e, Occurrence.bind_invoked?_eq_some.mp hq⟩

/-- An invocation is followed by the first operation of the callback. -/
theorem calls_of_invoked (hfree : host.TickFree) {k : Nat} {h : Handle} {e : Event α}
    (ho : m.occurrenceAt host k = some (.invoked h e)) :
    ∃ p c below, (m.run host (k + 1)).Calls p c below := by
  obtain ⟨c, rest, r, hc, -, htake⟩ := exists_drain_of_occurrence ho
  refine ⟨host.callback e.callback e, c + 1, (m.run host k).frames, ?_⟩
  rw [run_succ, step, hc, Option.getD_some, stepDrain, htake]
  exact ⟨rfl, hfree _ _, rfl⟩

theorem callbacksReturn_of_tickFree (hm : m.system.reactor.WellFormed) (hnil : m.served = [])
    (hfree : host.TickFree) (t : Nat) : CallbacksReturn host m t := by
  intro k hinv hk
  obtain ⟨h, e, ho⟩ := exists_of_invokedAt hinv
  obtain ⟨u, rest, hticks, hsame⟩ := innermost_of_invoked hm hnil hinv
  obtain ⟨p, c, below, hcalls⟩ := calls_of_invoked hfree ho
  obtain ⟨n, hkn, hd, hn⟩ := returns_of_tickFree hcalls.tickFree hcalls
  exact ⟨n, Nat.lt_of_succ_lt hkn, hd, by rw [hn, hsame, ← hticks, hk]⟩

/-! ## At most one tick -/

/-- Where a run is whose callbacks run no ticks: outside of ticks, or in a tick that looks at the ready queue or
has called one of them. -/
inductive AtMostOneTick (m : Machine σ α) : Prop where
  | idle (quiet : m.isDraining = false) (none : m.frames.filterMap Frame.served? = [])
  | looking {c : Nat} (control : m.control = .drain c) (none : m.frames.filterMap Frame.served? = [])
  | calling {p : Program σ α} {c : Nat} {below : List (Frame σ α)} (calls : m.Calls p c below)
      (none : below.filterMap Frame.served? = [])

theorem AtMostOneTick.of_step (h : m.AtMostOneTick) (hfree : host.TickFree) (hs : m.step host = some m') :
    m'.AtMostOneTick := by
  cases h with
  | idle quiet hnone =>
    by_cases hb : m.begins host = true
    · obtain ⟨frame, aside, hstep⟩ := step_of_begins hb
      rw [hstep, beginTick_eq] at hs
      cases hs
      have hframes : (frame :: m.frames).filterMap Frame.served? = [] := by
        rw [List.filterMap_cons_none aside, hnone]
      rcases (host.select m.system).1 with e | u
      · exact .idle rfl hframes
      · exact .looking rfl hframes
    · cases reframes_of_step (eq_false_of_ne_true hb) quiet hs with
      | keeps frames quiet => exact .idle quiet (by rw [frames, hnone])
      | suspends aside frames quiet =>
        exact .idle quiet (by rw [frames, List.filterMap_cons_none aside, hnone])
      | resumes aside frames quiet =>
        rw [frames, List.filterMap_cons_none aside] at hnone
        exact .idle quiet hnone
      | returns frames =>
        rw [frames] at hnone
        cases hnone
  | looking control hnone =>
    unfold step at hs
    rw [control] at hs
    cases hs
    unfold stepDrain
    split
    · exact .idle rfl hnone
    · exact .looking rfl hnone
    · exact .calling ⟨rfl, hfree _ _, rfl⟩ hnone
  | calling calls hnone =>
    rcases calls.of_step hs with ⟨control, frames⟩ | ⟨q, hq⟩
    · exact .looking control (by rw [frames, hnone])
    · exact .calling hq hnone

theorem atMostOneTick_run (hm : m.AtMostOneTick) (hfree : host.TickFree) (n : Nat) :
    (m.run host n).AtMostOneTick := by
  induction n with
  | zero => exact hm
  | succ n ih =>
    rw [run_succ]
    cases hs : (m.run host n).step host with
    | none => exact ih
    | some m' => exact ih.of_step hfree hs

/-- No tick begins inside of another. -/
theorem AtMostOneTick.served_of_begins (h : m.AtMostOneTick) (hb : m.begins host = true) : m.served = [] := by
  cases h with
  | idle quiet hnone => rw [served_of_not_drain quiet, hnone]
  | looking control =>
    have hd := isDraining_of_begins hb
    rw [isDraining, control] at hd
    cases hd
  | calling calls =>
    rw [calls.begins_eq] at hb
    cases hb

theorem AtMostOneTick.begins_of_served (h : m.AtMostOneTick) {c : Nat} (hserved : m.served = [c]) :
    m.begins host = false := by
  by_contra hb
  rw [h.served_of_begins (eq_true_of_ne_false hb)] at hserved
  cases hserved

/-! ## What a tick invokes -/

/-- All that was invoked after a step, in order, with the steps. -/
def invocationsSince (host : Host σ α) (m : Machine σ α) (b n : Nat) : List (Nat × Handle × Event α) :=
  (m.invocations host n).filter fun i => decide (b < i.1)

variable {k n : Nat}

theorem invocationsSince_self : m.invocationsSince host k (k + 1) = [] := by
  refine List.filter_eq_nil_iff.mpr fun i hi => ?_
  have := lt_of_mem_invocations hi
  simp only [decide_eq_true_eq]
  omega

theorem invocationsSince_succ (hkn : k < n) :
    m.invocationsSince host k (n + 1) =
      m.invocationsSince host k n ++ ((m.invokedAt host n).map (n, ·)).toList := by
  unfold invocationsSince
  rw [invocations_succ, List.filter_append]
  refine congrArg _ (List.filter_eq_self.mpr fun i hi => ?_)
  obtain ⟨q, -, rfl⟩ := Option.map_eq_some_iff.mp (Option.mem_toList.mp hi)
  exact decide_eq_true hkn

/-- **What stood in the queue was invoked, in this order, was withdrawn, or still stands there**, as long as
nothing more is selected. The induction is on the number of steps. -/
theorem fates_since (hm : m.system.reactor.WellFormed) (hkn : k + 1 ≤ n)
    (hquiet : ∀ j, k < j → j < n → (m.occurrenceAt host j).any Occurrence.isSelection = false) :
    ((m.queueAt host (k + 1)).filterMap fun q => m.fate host n (k, q)) =
      (m.invocationsSince host k n).map (fun i => (some i.1, i.2)) ++
        (m.queueAt host n).map fun q => (none, q) := by
  induction n, hkn using Nat.le_induction with
  | base =>
    rw [invocationsSince_self, List.map_nil, List.nil_append, ← List.filterMap_eq_map]
    exact List.filterMap_congr fun q _ => fate_of_le (Nat.le_refl _)
  | succ n hkn ih =>
    have hbefore := ih fun j hkj hjn => hquiet j hkj (Nat.lt_succ_of_lt hjn)
    obtain ⟨hsucc, happended⟩ := queueAt_succ host hm n
    have hfates : ∀ q ∈ m.queueAt host (k + 1),
        m.fate host (n + 1) (k, q) = (m.fate host n (k, q)).bind (m.advance host n) :=
      fun q _ => fate_succ hkn
    rw [List.filterMap_congr hfates, ← List.filterMap_filterMap, hbefore, filterMap_advance hm, hsucc,
      happended (hquiet n hkn (Nat.lt_succ_self n)), List.append_nil, invocationsSince_succ hkn]

/-- When the queue is empty, what stood in it was invoked unless it was withdrawn. -/
theorem invocationsSince_eq (hm : m.system.reactor.WellFormed) (hkn : k < n)
    (hquiet : ∀ j, k < j → j < n → (m.occurrenceAt host j).any Occurrence.isSelection = false)
    (hempty : m.queueAt host n = []) :
    (m.invocationsSince host k n).map Prod.snd =
      (m.queueAt host (k + 1)).filter fun q => !m.isWithdrawn host n (k, q) := by
  have hfates := congrArg (List.map Prod.snd) (fates_since hm hkn hquiet)
  rw [hempty, List.map_nil, List.append_nil, List.map_map, List.map_filterMap] at hfates
  rw [← List.filterMap_eq_filter]
  refine hfates.symm.trans (List.filterMap_congr fun q _ => ?_)
  unfold fate Option.guard
  cases hw : m.isWithdrawn host n (k, q) <;> simp [hw]

/-! ## What is registered meanwhile -/

/-- Whatever stands in the queue stood there before, if nothing was selected since then. -/
theorem mem_ready_of_le (hm : m.system.reactor.WellFormed) {h : Handle} (hkn : k ≤ n)
    (hquiet : ∀ j, k ≤ j → j < n → (m.occurrenceAt host j).any Occurrence.isSelection = false)
    (hh : h ∈ (m.reactorAt host n).ready) : h ∈ (m.reactorAt host k).ready := by
  induction n, hkn using Nat.le_induction with
  | base => exact hh
  | succ n hkn ih =>
    exact ih (fun j hkj hjn => hquiet j hkj (Nat.lt_succ_of_lt hjn))
      ((ready_sublist hm (hquiet n hkn (Nat.lt_succ_self n))).subset hh)

theorem not_mem_ready_of_registered (hm : m.system.reactor.WellFormed) {h : Handle} {request : Request α}
    {due : Option Instant} (ho : m.occurrenceAt host k = some (.registered h request due)) :
    h ∉ (m.reactorAt host (k + 1)).ready := by
  have he := effect_at host hm k
  rw [ho] at he
  cases he with
  | registered arms =>
    rw [arms.ready]
    intro hh
    obtain ⟨n, hn, -⟩ := ((wellFormed_reactorAt host hm k).mem_ready h).mp hh
    rw [arms.notifications.absent] at hn
    cases hn

/-- **Between a registration and its callback something is selected.** -/
theorem exists_selection_of_invoked (hm : m.system.reactor.WellFormed) {h : Handle} {request : Request α}
    {due : Option Instant} {e : Event α} (hreg : m.occurrenceAt host k = some (.registered h request due))
    (hkn : k < n) (hinv : m.occurrenceAt host n = some (.invoked h e)) :
    ∃ j, k < j ∧ j < n ∧ (m.occurrenceAt host j).any Occurrence.isSelection = true := by
  by_contra hnone
  push Not at hnone
  obtain ⟨-, rest, -, -, hready, -⟩ := exists_drain_of_occurrence hinv
  have hfirst : h ∈ (m.reactorAt host n).ready := by
    rw [reactorAt, hready]
    exact List.mem_cons_self
  exact not_mem_ready_of_registered hm hreg
    (mem_ready_of_le hm hkn (fun j hkj hjn => eq_false_of_ne_true (hnone j hkj hjn)) hfirst)

/-! ## From the selection to the answer -/

/-- Until it answers, a tick is the only one in progress. It has counted what was invoked since its selection. -/
theorem served_since (hm : m.system.reactor.WellFormed) (hone : ∀ j, (m.run host j).AtMostOneTick)
    (hsel : (m.occurrenceAt host k).any Occurrence.isSelection = true) (hkn : k + 1 ≤ n)
    (hnone : ∀ j, k < j → j < n → m.tickAnswerAt host j = none) :
    (m.run host n).served = [(m.invocationsSince host k n).length] := by
  induction n, hkn using Nat.le_induction with
  | base =>
    have hnests := nests_at host hm k
    rw [(hone k).served_of_begins (begins_of_isSelection hsel)] at hnests
    rw [invocationsSince_self]
    generalize m.occurrenceAt host k = o at hnests hsel
    generalize m.tickAnswerAt host k = answer at hnests
    generalize (m.run host (k + 1)).served = l' at hnests ⊢
    cases hnests with
    | enters => rfl
    | fails => cases hsel
    | stays unselected => exact absurd (hsel.symm.trans unselected) Bool.noConfusion
  | succ n hkn ih =>
    have hserved := ih fun j hkj hjn => hnone j hkj (Nat.lt_succ_of_lt hjn)
    have hbegins : (m.run host n).begins host = false := (hone n).begins_of_served hserved
    have hquiet := not_isSelection_of_begins hbegins
    have hnests := nests_at host hm n
    rw [hserved, hnone n hkn (Nat.lt_succ_self n)] at hnests
    rw [invocationsSince_succ hkn, List.length_append, invokedAt]
    generalize (m.run host (n + 1)).served = l' at hnests ⊢
    unfold occurrenceAt at hnests ⊢
    generalize (m.run host n).occurrence host = o at hnests hquiet ⊢
    cases hnests with
    | enters selects => exact absurd (hquiet.symm.trans selects) Bool.noConfusion
    | invokes invoked =>
      obtain ⟨q, hq⟩ := Option.isSome_iff_exists.mp invoked
      rw [show (some _).bind Occurrence.invoked? = some q from hq]
      rfl
    | stays _ uninvoked =>
      rw [uninvoked]
      rfl

/-- The tick answers. -/
theorem exists_first_answer (hm : m.system.reactor.WellFormed) (hnil : m.served = [])
    (hone : ∀ j, (m.run host j).AtMostOneTick) (hfree : host.TickFree) {reported : List Conditions}
    {now : Instant} (hsel : m.occurrenceAt host k = some (.selected reported now)) :
    ∃ n c, k < n ∧ m.tickAnswerAt host n = some (.ok c) ∧
      ∀ j, k < j → j < n → m.tickAnswerAt host j = none := by
  have hticks : m.ticking host (k + 1) = k :: m.ticking host k := ticking_of_selection (by rw [hsel]; rfl)
  obtain ⟨last, hklast, hlast, -⟩ := exists_answer hm hnil (callbacksReturn_of_tickFree hm hnil hfree k) _
    (k + 1) rfl (isDraining_of_selected hsel) (by rw [hticks]; rfl)
  have hex : ∃ n, k < n ∧ (m.tickAnswerAt host n).isSome = true := ⟨last, hklast, by rw [hlast]; rfl⟩
  classical
  obtain ⟨hkn, hsome⟩ := Nat.find_spec hex
  have hnone : ∀ j, k < j → j < Nat.find hex → m.tickAnswerAt host j = none := by
    intro j hkj hj
    exact Option.not_isSome_iff_eq_none.mp fun hanswer => Nat.find_min hex hj ⟨hkj, hanswer⟩
  obtain ⟨result, hresult⟩ := Option.isSome_iff_exists.mp hsome
  cases result with
  | ok c => exact ⟨_, c, hkn, hresult, hnone⟩
  | error e =>
    -- only a tick that begins fails, and none does inside of this one
    have hbegins := begins_of_tickAnswer (wellFormed_reactorAt host hm _) hresult
    rw [(hone _).begins_of_served (served_since hm hone (by rw [hsel]; rfl) hkn hnone)] at hbegins
    cases hbegins

/-- A tick that looks at the queue and does not answer has found something there. -/
theorem isDraining_iff (hm : m.system.reactor.WellFormed) (hnone : m.tickAnswerAt host n = none) :
    (m.run host n).isDraining = true ↔ (m.invokedAt host n).isSome = true := by
  constructor
  · intro hd
    rcases drain_cases host (wellFormed_reactorAt host hm n) hd with ⟨-, c, hok⟩ | ⟨-, h, e, ho⟩
    · exact absurd (hnone.symm.trans hok) nofun
    · rw [invokedAt, occurrenceAt, ho]
      rfl
  · intro hinv
    obtain ⟨h, e, ho⟩ := exists_of_invokedAt hinv
    obtain ⟨c, -, -, hc, -⟩ := exists_drain_of_occurrence ho
    rw [isDraining, hc]

/-- What a tick does that gets past its wait with a step, and answers with a later one. -/
structure Drains (host : Host σ α) (m : Machine σ α) (k n c : Nat) : Prop where
  ends : k < n
  /-- It answers with the number of callbacks that it has invoked, … -/
  answers : m.tickAnswerAt host n = some (.ok c)
  counts : c = (m.invocationsSince host k n).length
  /-- … which is not above the number of those that stood in the queue. -/
  few : c ≤ (m.reactorAt host (k + 1)).ready.length
  /-- Until then no other tick begins or ends, and nothing is added to the queue. -/
  closed : ∀ {j}, k < j → j < n → (m.run host j).begins host = false ∧ m.tickAnswerAt host j = none ∧
    (m.reactorAt host (j + 1)).ready.Sublist (m.reactorAt host j).ready
  /-- Each look at the queue before the last one is for one callback. -/
  looks : ∀ {j}, k < j → j < n →
    ((m.run host j).isDraining = true ↔ (m.invokedAt host j).isSome = true)
  /-- Its selection is appended to the queue. -/
  queued : m.queueAt host (k + 1) = m.queueAt host k ++ m.appendedAt host k
  /-- Nothing else stands in the queue, unless it did when the run began. -/
  alone : m.system.reactor.ready = [] → m.queueAt host k = []
  /-- What stands in the queue is invoked, in this order, without what is withdrawn before its turn. -/
  order : (m.invocationsSince host k n).map Prod.snd =
    (m.queueAt host (k + 1)).filter fun q => !m.isWithdrawn host n (k, q)
  /-- What is registered meanwhile is not invoked before a later tick has made its selection. -/
  waits : ∀ {h request due e j l}, k < j → j < n →
    m.occurrenceAt host j = some (.registered h request due) → j < l →
    m.occurrenceAt host l = some (.invoked h e) →
    ∃ t, n < t ∧ t < l ∧ (m.occurrenceAt host t).any Occurrence.isSelection = true

theorem drains_of_answer (hm : m.system.reactor.WellFormed) (hone : ∀ j, (m.run host j).AtMostOneTick)
    {c : Nat} (hsel : (m.occurrenceAt host k).any Occurrence.isSelection = true) (hkn : k < n)
    (hanswer : m.tickAnswerAt host n = some (.ok c))
    (hnone : ∀ j, k < j → j < n → m.tickAnswerAt host j = none) : m.Drains host k n c := by
  have hserved : ∀ j, k < j → j ≤ n → (m.run host j).served = [(m.invocationsSince host k j).length] :=
    fun j hkj hjn => served_since hm hone hsel hkj fun i hki hij => hnone i hki (Nat.lt_of_lt_of_le hij hjn)
  have hbegins : ∀ j, k < j → j ≤ n → (m.run host j).begins host = false :=
    fun j hkj hjn => (hone j).begins_of_served (hserved j hkj hjn)
  have hquiet : ∀ j, k < j → j ≤ n → (m.occurrenceAt host j).any Occurrence.isSelection = false :=
    fun j hkj hjn => not_isSelection_of_begins (hbegins j hkj hjn)
  have hready := ready_of_tickAnswer (wellFormed_reactorAt host hm n) hanswer
  have horder := invocationsSince_eq hm hkn (fun j hkj hjn => hquiet j hkj (Nat.le_of_lt hjn))
    (queueAt_of_ready hready)
  have hcount : c = (m.invocationsSince host k n).length := by
    have hnests := nests_at host hm n
    rw [hanswer, hserved n hkn (Nat.le_refl n)] at hnests
    generalize m.occurrenceAt host n = o at hnests
    generalize (m.run host (n + 1)).served = l' at hnests
    cases hnests
    rfl
  exact {
    ends := hkn
    answers := hanswer
    counts := hcount
    few :=
      calc c = ((m.invocationsSince host k n).map Prod.snd).length := by rw [List.length_map, hcount]
        _ ≤ (m.queueAt host (k + 1)).length := by rw [horder]; exact List.length_filter_le _ _
        _ = (m.reactorAt host (k + 1)).ready.length := by
          rw [← Reactor.queue_map_fst (wellFormed_reactorAt host hm (k + 1)), List.length_map, queueAt]
    closed := fun {j} hkj hjn => ⟨hbegins j hkj (Nat.le_of_lt hjn), hnone j hkj hjn,
      ready_sublist hm (hquiet j hkj (Nat.le_of_lt hjn))⟩
    looks := fun {j} hkj hjn => isDraining_iff hm (hnone j hkj hjn)
    queued := queueAt_of_selection hm hsel
    alone := fun hempty => queueAt_of_ready (ready_eq_nil_of_served hm hempty k
      ((hone k).served_of_begins (begins_of_isSelection hsel)))
    order := horder
    waits := by
      intro h request due e j l hkj hjn hreg hjl hinv
      obtain ⟨t, hjt, htl, ht⟩ := exists_selection_of_invoked hm hreg hjl hinv
      refine ⟨t, ?_, htl, ht⟩
      by_contra hnt
      have hno := hquiet t (Nat.lt_trans hkj hjt) (Nat.le_of_not_lt hnt)
      rw [ht] at hno
      cases hno }

/-- **A tick whose callbacks run no ticks ends, and invokes what it queued and nothing else.** -/
theorem drains_what_it_queued {y : System σ α} (hy : y.reactor.Reachable) {host : Host σ α}
    (hfree : host.TickFree) (p : Program σ α) {k : Nat} {reported : List Conditions} {now : Instant}
    (hsel : (start y p).occurrenceAt host k = some (.selected reported now)) :
    ∃ n c, (start y p).Drains host k n c := by
  have hm : (start y p).system.reactor.WellFormed := hy.wellFormed
  have hone : ∀ j, ((start y p).run host j).AtMostOneTick := atMostOneTick_run (.idle rfl rfl) hfree
  obtain ⟨n, c, hkn, hanswer, hnone⟩ := exists_first_answer hm rfl hone hfree hsel
  exact ⟨n, c, drains_of_answer hm hone (by rw [hsel]; rfl) hkn hanswer hnone⟩

end Machine

/-! ## A callback that registers again -/

/-- To be notified at once. -/
def Request.atOnce : Request Unit := { Request.toRead with timeout := .after .zero }

/-- Surroundings in which every callback registers, withdraws the second notification, and registers again. -/
def Host.replacing : Host Unit Unit :=
  { Host.steady with
    callback := fun _ _ =>
      .register .atOnce fun _ => .cancel ⟨1, 0⟩ fun _ => .register .atOnce fun _ => .done }

/-- Registers three times for reading and runs two ticks. -/
def Program.readThrice : Program Unit Unit :=
  .register .toRead fun _ => .register .toRead fun _ => .register .toRead fun _ =>
    .tick fun _ => .tick fun _ => .done

namespace Machine

/-- The first callback uses its own slot again, and that of the second notification, which was queued and is
withdrawn. Both have to wait for the second tick. -/
theorem drains_what_it_queued_replacing :
    System.unused.reactor.Reachable ∧ Host.replacing.TickFree ∧
      (∃ n c, (start .unused .readThrice).Drains .replacing 3 n c) ∧
      ((start .unused .readThrice).reactorAt .replacing 4).ready = [⟨0, 0⟩, ⟨1, 0⟩, ⟨2, 0⟩] ∧
      (start .unused .readThrice).givenAt .replacing 5 = some ⟨0, 1⟩ ∧
      (start .unused .readThrice).givenAt .replacing 7 = some ⟨1, 1⟩ ∧
      ((start .unused .readThrice).invocations .replacing 23).map (fun i => (i.1, i.2.1)) =
        [(4, ⟨0, 0⟩), (9, ⟨2, 0⟩), (17, ⟨0, 1⟩), (22, ⟨1, 1⟩)] := by
  have hreachable : System.unused.reactor.Reachable := .initial (.empty _)
  have hfree : Host.replacing.TickFree :=
    fun _ _ => .register fun _ => .cancel fun _ => .register fun _ => .done
  exact ⟨hreachable, hfree, drains_what_it_queued (y := .unused) hreachable hfree .readThrice (k := 3) rfl,
    rfl, rfl, rfl, rfl⟩

end Machine

end EventLoop
