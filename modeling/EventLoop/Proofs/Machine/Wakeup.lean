import EventLoop.Proofs.Machine.Progress
import EventLoop.Proofs.Machine.Wait
import EventLoop.Proofs.Reactor.Wakeup

/-!
# No wake-up without work

When a reactor has something to wait for, and the wait ends because of that, the tick finds a notification
to dispatch. So it ends with at least one callback invoked, provided that its callbacks return.

* `ready_of_honoured` — the queue is not empty after the selection.
* `length_lt_of_return` — when a callback returns the queue is shorter than before, whatever ticks it ran.
* `woken_with_work` — the tick answers with one callback or more.
-/

namespace EventLoop

variable {σ α : Type}

/-- Is there anything to wait for: a deadline, or an interest in a file? -/
def Reactor.HasWork (r : Reactor α) : Prop :=
  r.deadlines ≠ [] ∨ ∃ g ∈ r.active, r.isPolled g = true

/-- A wait reported, and then the clock showed an instant, as they should. -/
structure WaitCall.Honoured (call : WaitCall σ) (reported : List Conditions) (after : Instant) : Prop where
  /-- An entry gets conditions that it asks for, and those that are reported unasked, but no others. -/
  within : ∀ (i : Nat) e c, call.entries[i]? = some e → reported[i]? = some c →
    c &&& (e.asked ||| .unasked) = c
  /-- There is something to report, or the time is up. -/
  ended : (∃ (i : Nat) (e : PollEntry) (c : Conditions),
      call.entries[i]? = some e ∧ reported[i]? = some c ∧ c ≠ .none) ∨
    ∃ before span, call.before = some before ∧ call.bound = some span ∧ (before + span).le after = true

namespace Reactor

variable {r : Reactor α}

/-- With something to wait for, only a deadline bounds the wait. -/
theorem deadlines_ne_nil {call : WaitCall σ} (hasks : r.Asks call)
    (hwork : r.HasWork) {span : Span} (hspan : call.bound = some span) : r.deadlines ≠ [] := by
  rcases hwork with hdue | ⟨g, hg, hpolled⟩
  · exact hdue
  · intro hnil
    have hentries : call.entries ≠ [] := by
      intro he
      have hforall := hasks.entries
      rw [he, List.forall₂_nil_right_iff] at hforall
      exact List.not_mem_nil (hforall ▸ List.mem_filter.mpr ⟨hg, hpolled⟩)
    rw [hasks.bounded.none_iff.mpr ⟨hentries, hnil⟩] at hspan
    cases hspan

/-- **A wait that was honoured leaves something to select.** -/
theorem exists_selects_of_honoured (hr : r.WellFormed) {call : WaitCall σ} (hasks : r.Asks call)
    (hentries : call.entries = r.pollSet) (hwork : r.HasWork) {reported : List Conditions}
    {after : Instant} (hhonoured : call.Honoured reported after) :
    ∃ h, r.selects reported after h = true := by
  rcases hhonoured.ended with ⟨i, e, c, he, hc, hne⟩ | ⟨before, span, hbefore, hspan, hover⟩
  · have hin := hhonoured.within i e c he hc
    rw [hentries] at he
    exact exists_selects_of_reported hr he hc hne hin after
  · have hdue := deadlines_ne_nil hasks hwork hspan
    obtain ⟨t, ht, hle⟩ :=
      hasks.bounded.exists_due hdue hbefore hspan (Instant.le_iff_toNanos.mp hover)
    exact exists_selects_of_deadline hr ht hle reported

end Reactor

namespace Machine

variable {host : Host σ α} {m : Machine σ α}

/-! ## Into the tick -/

theorem begins_of_waitCallAt {t : Nat} {call : WaitCall σ} (hcall : m.waitCallAt host t = some call) :
    (m.run host t).begins host = true ∧ host.waitCall (m.run host t).system = some call := by
  unfold waitCallAt at hcall
  split at hcall
  · next hb => exact ⟨hb, hcall⟩
  · cases hcall

/-- A tick whose wait and clock answer goes on to dispatch, inside of the ticks in progress. -/
theorem draining_of_waitCallAt {t : Nat} {call : WaitCall σ} (hcall : m.waitCallAt host t = some call)
    {reported : List Conditions} {s s' : σ} {after : Instant}
    (hwait : host.wait call.entries call.bound call.outside = (.ok reported, s))
    (hnow : host.now s = (.ok after, s')) :
    m.occurrenceAt host t = some (.selected reported after) ∧
      (m.run host (t + 1)).isDraining = true ∧ m.ticking host (t + 1) = t :: m.ticking host t := by
  obtain ⟨hbegins, hmake⟩ := begins_of_waitCallAt hcall
  have hseen := Host.observed_of_waitCall hmake hwait hnow
  have ho : m.occurrenceAt host t = some (.selected reported after) := by
    rw [occurrenceAt, occurrence_of_begins hbegins]
    exact Host.selection_eq_some.mpr ⟨reported, after, hseen, rfl⟩
  exact ⟨ho, isDraining_of_selected ho, ticking_of_selection (by rw [ho]; rfl)⟩

theorem ready_of_honoured (hm : m.system.reactor.WellFormed) {t : Nat} {call : WaitCall σ}
    (hcall : m.waitCallAt host t = some call) (hwork : (m.reactorAt host t).HasWork)
    {reported : List Conditions} {after : Instant} (hhonoured : call.Honoured reported after)
    (ho : m.occurrenceAt host t = some (.selected reported after)) :
    (m.reactorAt host (t + 1)).ready ≠ [] := by
  have hwf := wellFormed_reactorAt host hm t
  obtain ⟨-, hmake⟩ := begins_of_waitCallAt hcall
  have hentries : call.entries = (m.reactorAt host t).pollSet := by
    obtain ⟨-, s, -, heq, -⟩ := Host.remaining_of_waitCall hmake
    rw [heq]
    rfl
  obtain ⟨h, hsel⟩ := Reactor.exists_selects_of_honoured hwf (Host.asks_of_waitCall hwf hmake) hentries
    hwork hhonoured
  have he := effect_at host hm t
  rw [ho] at he
  cases he with
  | selected selects =>
    intro hnil
    have hmem : h ∈ (m.reactorAt host (t + 1)).ready := (selects.mem_ready hwf).mpr (Or.inr hsel)
    rw [hnil] at hmem
    cases hmem

/-! ## From an invocation to its return -/

/-- Every callback that a tick invokes returns to it. -/
def CallbacksReturn (host : Host σ α) (m : Machine σ α) (t : Nat) : Prop :=
  ∀ k, (m.invokedAt host k).isSome = true → (m.ticking host k).head? = some t →
    ∃ n, k < n ∧ (m.run host n).isDraining = true ∧ (m.ticking host n).head? = some t

/-- Where a run is while a callback of the innermost of some ticks is running: between operations of the
callback, with at most so many notifications in the queue, or in a tick inside of it. -/
inductive Within (host : Host σ α) (m : Machine σ α) (ticks : List Nat) (most i : Nat) : Prop where
  | callback (ticking : m.ticking host i = ticks) (few : (m.reactorAt host i).ready.length ≤ most)
  | deeper (u : Nat) (upper : List Nat) (ticking : m.ticking host i = u :: upper ++ ticks)

/-- Until the tick looks at the queue again. A tick inside of the callback may add to the queue, but it ends
with the queue empty. -/
theorem Within.succ (hm : m.system.reactor.WellFormed) (hnil : m.served = []) {t : Nat} {outer : List Nat}
    {most i : Nat} (hw : Within host m (t :: outer) most i)
    (hnot : (m.run host i).isDraining = true → (m.ticking host i).head? ≠ some t) :
    Within host m (t :: outer) most (i + 1) := by
  have hturn := turn_at host hm hnil i
  cases hw with
  | callback ticking few =>
    have hd : ¬(m.run host i).isDraining = true := fun hd => hnot hd (by rw [ticking]; rfl)
    cases hturn with
    | enters _ _ next => exact .deeper i [] (next.trans (congrArg _ ticking))
    | invokes invoked _ _ _ =>
      obtain ⟨c, rest, r, hc, -, -⟩ := exists_drain_of_occurrence invoked
      exact absurd (by rw [isDraining, hc]) hd
    | leaves _ answer _ _ => exact absurd (isDraining_of_ok answer) hd
    | fails quiet _ next =>
      exact .callback (next.trans ticking) (Nat.le_trans (ready_length_le hm (by rw [quiet]; rfl)) few)
    | stays unselected _ _ next =>
      exact .callback (next.trans ticking) (Nat.le_trans (ready_length_le hm unselected) few)
  | deeper u upper ticking =>
    cases hturn with
    | enters _ _ next => exact .deeper i (u :: upper) (next.trans (congrArg _ ticking))
    | invokes _ _ innermost next => exact .deeper u upper (next.trans (innermost.symm.trans ticking))
    | leaves quiet answer innermost next =>
      rw [innermost] at ticking
      obtain ⟨rfl, hrest⟩ := List.cons.inj ticking
      cases upper with
      | nil =>
        have hempty := ready_of_tickAnswer (wellFormed_reactorAt host hm i) answer
        have hno : (m.occurrenceAt host i).any Occurrence.isSelection = false := by rw [quiet]; rfl
        refine .callback (next.trans hrest) (Nat.le_trans (ready_length_le hm hno) ?_)
        rw [show (m.reactorAt host i).ready = [] from hempty]
        exact Nat.zero_le _
      | cons v upper => exact .deeper v upper (next.trans hrest)
    | fails _ _ next => exact .deeper u upper (next.trans ticking)
    | stays _ _ _ next => exact .deeper u upper (next.trans ticking)

theorem within_of_invoked (hm : m.system.reactor.WellFormed) (hnil : m.served = []) {t k n : Nat}
    {outer : List Nat} (hticks : m.ticking host (k + 1) = t :: outer) (hkn : k + 1 ≤ n)
    (hfirst : ∀ i, k < i → i < n → (m.run host i).isDraining = true → (m.ticking host i).head? ≠ some t) :
    Within host m (t :: outer) (m.reactorAt host (k + 1)).ready.length n := by
  induction n, hkn using Nat.le_induction with
  | base => exact .callback hticks (Nat.le_refl _)
  | succ i hi ih =>
    refine (ih fun j hkj hji => hfirst j hkj (Nat.lt_succ_of_lt hji)).succ hm hnil ?_
    exact hfirst i (by omega) (Nat.lt_succ_self i)

/-- **When a callback has returned, the queue is shorter than before, whatever ticks it ran.** -/
theorem length_lt_of_return (hm : m.system.reactor.WellFormed) (hnil : m.served = []) {t k n : Nat}
    {h : Handle} {e : Event α} (ho : m.occurrenceAt host k = some (.invoked h e))
    (hk : (m.ticking host k).head? = some t) (hkn : k < n)
    (hfirst : ∀ i, k < i → i < n → (m.run host i).isDraining = true → (m.ticking host i).head? ≠ some t)
    (hn : (m.ticking host n).head? = some t) :
    (m.reactorAt host n).ready.length < (m.reactorAt host k).ready.length := by
  have hshorter : (m.reactorAt host (k + 1)).ready.length < (m.reactorAt host k).ready.length := by
    have he := effect_at host hm k
    rw [ho] at he
    cases he with
    | invoked takes =>
      rw [takes.ready]
      exact Nat.lt_succ_self _
  obtain ⟨u, outer, hticks, hsame⟩ := innermost_of_invoked hm hnil (k := k) (by rw [invokedAt, ho]; rfl)
  obtain rfl : t = u := by
    rw [hticks] at hk
    exact (Option.some.inj hk).symm
  cases within_of_invoked hm hnil hsame hkn hfirst with
  | callback _ few => exact Nat.lt_of_le_of_lt few hshorter
  | deeper u upper ticking =>
    -- a tick inside of the tick began later, so it is another one
    have hsorted := (ticking_sorted host m n).1
    rw [ticking] at hsorted hn
    have hlt : u > t := (List.pairwise_cons.mp hsorted).1 t (by simp)
    cases hn
    exact absurd hlt (Nat.lt_irrefl _)

/-- The induction is on the length of the queue, which is shorter at each look. -/
theorem exists_answer (hm : m.system.reactor.WellFormed) (hnil : m.served = []) {t : Nat}
    (hreturn : CallbacksReturn host m t) (len : Nat) :
    ∀ k, (m.reactorAt host k).ready.length = len → (m.run host k).isDraining = true →
      (m.ticking host k).head? = some t →
      ∃ n, k ≤ n ∧ m.tickAnswerAt host n = some (.ok (m.own host t n)) ∧
        (m.ticking host n).head? = some t := by
  induction len using Nat.strong_induction_on with
  | _ len ih =>
    intro k hlen hd hk
    rcases drain_cases host (wellFormed_reactorAt host hm k) hd with ⟨-, c, hok⟩ | ⟨-, h, e, ho⟩
    · obtain ⟨-, u, hticks, rfl⟩ := own_of_ok hm hnil hok
      obtain rfl : t = u := by
        rw [hticks] at hk
        exact (Option.some.inj hk).symm
      exact ⟨k, Nat.le_refl k, hok, hk⟩
    · have hinv : (m.invokedAt host k).isSome = true := by rw [invokedAt, occurrenceAt, ho]; rfl
      -- the first return after the invocation
      have hex := hreturn k hinv hk
      classical
      obtain ⟨hkn, hdn, hn⟩ := Nat.find_spec hex
      have hfirst : ∀ i, k < i → i < Nat.find hex → (m.run host i).isDraining = true →
          (m.ticking host i).head? ≠ some t := by
        intro i hki hi hdi hti
        exact Nat.find_min hex hi ⟨hki, hdi, hti⟩
      have hlt := length_lt_of_return hm hnil ho hk hkn hfirst hn
      obtain ⟨n, hle, hanswer, hhead⟩ := ih _ (hlen ▸ hlt) (Nat.find hex) rfl hdn hn
      exact ⟨n, Nat.le_trans (Nat.le_of_lt hkn) hle, hanswer, hhead⟩

theorem own_mono {t k n : Nat} (hkn : k ≤ n) : m.own host t k ≤ m.own host t n := by
  induction hkn with
  | refl => exact Nat.le_refl _
  | @step n _ ih =>
    refine Nat.le_trans ih ?_
    unfold own
    rw [invocations_succ, List.countP_append]
    exact Nat.le_add_right _ _

/-- **A wait that ends as it should, for a reactor with something to wait for, is followed by a callback.**
The tick that made it answers with the number of callbacks it invoked, which is not zero. -/
theorem woken_with_work {y : System σ α} (hy : y.reactor.Initial) (host : Host σ α) (p : Program σ α)
    {t : Nat} {call : WaitCall σ} (hcall : (start y p).waitCallAt host t = some call)
    (hwork : ((start y p).reactorAt host t).HasWork) {reported : List Conditions} {s s' : σ}
    {after : Instant} (hwait : host.wait call.entries call.bound call.outside = (.ok reported, s))
    (hnow : host.now s = (.ok after, s')) (hhonoured : call.Honoured reported after)
    (hreturn : CallbacksReturn host (start y p) t) :
    ∃ n count, t < n ∧ (start y p).tickAnswerAt host n = some (.ok count) ∧
      ((start y p).ticking host n).head? = some t ∧ 1 ≤ count := by
  have hwf : (start y p).system.reactor.WellFormed := Reactor.wellFormed_of_initial hy
  have hnil : (start y p).served = [] := rfl
  obtain ⟨ho, hd, hticks⟩ := draining_of_waitCallAt hcall hwait hnow
  have hready := ready_of_honoured hwf hcall hwork hhonoured ho
  have hhead : ((start y p).ticking host (t + 1)).head? = some t := by rw [hticks]; rfl
  obtain ⟨n, hn, hanswer, hnhead⟩ := exists_answer hwf hnil hreturn _ (t + 1) rfl hd hhead
  refine ⟨n, _, by omega, hanswer, hnhead, ?_⟩
  -- the first look at the queue finds a notification, so it is not the last
  have hwf' := wellFormed_reactorAt host hwf (t + 1)
  rcases drain_cases host hwf' hd with ⟨hempty, -⟩ | ⟨hnone, h, e, hinv⟩
  · exact absurd hempty hready
  · have hne : n ≠ t + 1 := by
      rintro rfl
      rw [tickAnswerAt, hnone] at hanswer
      cases hanswer
    have hsome : ((start y p).invokedAt host (t + 1)).isSome = true := by
      rw [invokedAt, occurrenceAt, hinv]
      rfl
    calc 1 ≤ (start y p).own host t (t + 1) + 1 := Nat.le_add_left 1 _
      _ = (start y p).own host t (t + 2) := by rw [own_succ_of_some hsome, if_pos hhead]
      _ ≤ (start y p).own host t n := own_mono (by omega)

/-! ## A tick that is woken by input -/

/-- A run that has ended stays as it is. -/
theorem run_of_ended {k n : Nat} (hs : (m.run host k).step host = none) (hkn : k ≤ n) :
    m.run host n = m.run host k := by
  induction n, hkn using Nat.le_induction with
  | base => rfl
  | succ n _ ih => rw [run_succ, ih, hs, Option.getD_none]

theorem callbacksReturn_readOnce : CallbacksReturn .steady (start .unused .readOnce) 1 := by
  intro k hinv _
  by_cases hk : k < 6
  · interval_cases k
    · cases hinv
    · cases hinv
    · exact ⟨4, by decide, rfl, rfl⟩
    · cases hinv
    · cases hinv
    · cases hinv
  · have hend : (start .unused .readOnce).run .steady k = (start .unused .readOnce).run .steady 6 :=
      run_of_ended rfl (by omega)
    rw [invokedAt, occurrenceAt, hend] at hinv
    cases hinv

theorem woken_by_input :
    (start .unused .readOnce).waitCallAt .steady 1 =
        some { entries := [.ofInterest 3 .read], bound := none, before := none, outside := () } ∧
      ∃ n count, 1 < n ∧ (start .unused .readOnce).tickAnswerAt .steady n = some (.ok count) ∧
        ((start .unused .readOnce).ticking .steady n).head? = some 1 ∧ 1 ≤ count := by
  have hwork : ((start .unused .readOnce).reactorAt .steady 1).HasWork :=
    Or.inr ⟨{ index := 0, generation := 0 }, List.mem_cons_self, rfl⟩
  refine ⟨rfl, woken_with_work (y := .unused) (.empty _) .steady .readOnce (t := 1) rfl hwork
    (s := ()) rfl rfl ⟨?_, Or.inl ⟨0, _, .input, rfl, rfl, by decide⟩⟩ callbacksReturn_readOnce⟩
  intro i e c he hc
  cases i with
  | zero =>
    cases he
    cases hc
    rfl
  | succ i => cases he

end Machine

end EventLoop
