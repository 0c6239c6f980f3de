import EventLoop.Proofs.Machine.History
import EventLoop.Proofs.Machine.Progress

/-!
# What becomes of a registration

A registered notification waits until a tick has a reason to select it, stands in the ready queue until its
turn comes, and is invoked then; a withdrawal puts an end to this at any point. The phases are followed
along a run, with the slot of the notification held fast by its generation.

* `phase_of_registered` — before it is given up, a notification waits for its first reason, or stands in the
  ready queue with that reason noted down.
* `dispatched_exactly_once` — when it is selected, whether it is invoked, and with what.
-/

namespace EventLoop

variable {σ α : Type}

namespace Events

theorem inter_inter_waitable {a : Events} (ha : a &&& .waitable = a) (b : Events) :
    a &&& (b &&& .waitable) = a &&& b := by
  have hbits : a.bits &&& 7 = a.bits := congrArg Events.bits ha
  show (⟨a.bits &&& (b.bits &&& 7)⟩ : Events) = ⟨a.bits &&& b.bits⟩
  rw [← UInt32.and_assoc, UInt32.and_comm (a.bits &&& b.bits) 7, ← UInt32.and_assoc,
    UInt32.and_comm 7 a.bits, hbits]

/-- A part of what can be waited for is not the mask of a passed deadline. -/
theorem inter_ne_timeout {a : Events} (ha : a &&& .waitable = a) (b : Events) :
    a &&& b ≠ .timeout := by
  intro he
  have hbits : a.bits &&& 7 = a.bits := congrArg Events.bits ha
  have height : a.bits &&& b.bits = 8 := congrArg Events.bits he
  have hsub : 7 &&& (a.bits &&& b.bits) = a.bits &&& b.bits := by
    rw [← UInt32.and_assoc, UInt32.and_comm 7 a.bits, hbits]
  rw [height] at hsub
  exact absurd hsub (by decide)

end Events

/-! ## Reasons -/

namespace Reactor

/-- The part of a request's interest that came about on its descriptor. -/
def metBy (r : Reactor α) (reported : List Conditions) (request : Request α) : Events :=
  r.readiness reported request.descriptor &&& request.interest

/-- Why a tick selects the notification of a request. -/
def reasonFor (r : Reactor α) (reported : List Conditions) (now : Instant) (request : Request α)
    (due : Option Instant) : Events :=
  if !(r.metBy reported request).isEmpty then r.metBy reported request
  else if due.any (·.le now) then .timeout
  else .none

theorem maskOf_armed (r : Reactor α) (reported : List Conditions) (now : Instant)
    (request : Request α) (due : Option Instant) (g : Handle) :
    r.maskOf reported now (request.armed due g) = r.reasonFor reported now request due := by
  have hmet : r.readiness reported request.descriptor &&& (request.interest &&& .waitable) =
      r.metBy reported request :=
    Events.inter_inter_waitable (r.readiness_inter_waitable reported request.descriptor) _
  show (if !(r.readiness reported request.descriptor &&& (request.interest &&& .waitable)).isEmpty then
      r.readiness reported request.descriptor &&& (request.interest &&& .waitable) else _) = _
  rw [hmet]
  rfl

/-- There is a reason if a part of the interest came about, or if the deadline has passed. -/
theorem reasonFor_isEmpty {r : Reactor α} {reported : List Conditions} {now : Instant}
    {request : Request α} {due : Option Instant} :
    (r.reasonFor reported now request due).isEmpty = false ↔
      (r.metBy reported request).isEmpty = false ∨ due.any (·.le now) = true := by
  unfold reasonFor
  cases hmet : (r.metBy reported request).isEmpty with
  | false => simp [hmet]
  | true =>
    cases hdue : due.any (·.le now) with
    | false => simp [Events.isEmpty, Events.none]
    | true => simp [Events.isEmpty, Events.timeout]

theorem reasonFor_ne_timeout {r : Reactor α} {reported : List Conditions} {now : Instant}
    {request : Request α} : r.reasonFor reported now request none ≠ .timeout := by
  unfold reasonFor
  split
  · exact Events.inter_ne_timeout (r.readiness_inter_waitable reported request.descriptor) _
  · intro h
    cases h

end Reactor

/-! ## Phases -/

/-- The notification of a request once it was selected. -/
def Request.queued (request : Request α) (due : Option Instant) (reason : Events) : Notification α :=
  { descriptor := request.descriptor
    interest := request.interest &&& .waitable
    due
    triggered := reason
    place := .ready
    payload := some (request.callback, request.arg) }

/-- What the callback of a request is given. -/
def Request.event (request : Request α) (reason : Events) : Event α :=
  { descriptor := request.descriptor, triggered := reason, arg := request.arg
    callback := request.callback }

theorem Notification.Tells.eq_event {request : Request α} {due : Option Instant} {reason : Events}
    {e : Event α} (h : (request.queued due reason).Tells e) : e = request.event reason := by
  rcases e with ⟨descriptor, triggered, arg, callback⟩
  have hd : descriptor = request.descriptor := h.descriptor
  have ht : triggered = reason := h.triggered
  have hp : some (request.callback, request.arg) = some (callback, arg) := h.payload
  cases hp
  rw [hd, ht]
  rfl

/-- What an occurrence makes of a notification that it does not give back. -/
def Occurrence.after (r : Reactor α) (n : Notification α) : Option (Occurrence α) → Notification α
  | some (.selected reported now) => r.mark reported now n
  | _ => n

namespace Reactor

/-- What becomes of a notification in one step that does not give it back. -/
theorem Effect.get?_of_kept {o : Option (Occurrence α)} {r r' : Reactor α} (he : Effect o r r')
    {h : Handle} {n : Notification α} (hn : r.notifications.get? h = some n)
    (ho : o.bind Occurrence.freed? ≠ some h) :
    r'.notifications.get? h = some (Occurrence.after r n o) := by
  cases he with
  | none rests => rw [rests.notifications, hn]; rfl
  | @registered _ _ request due k g arms =>
    have hk : h ≠ k := by
      rintro rfl
      rw [arms.notifications.absent] at hn
      cases hn
    rw [arms.notifications.get?, if_neg hk, hn]
    rfl
  | @cancelled _ _ k withdraws =>
    have hk : h ≠ k := fun hk => ho (by rw [hk]; rfl)
    rw [withdraws.notifications.get?, if_neg hk, hn]
    rfl
  | selected selects =>
    rw [selects.notifications.get?, hn]
    rfl
  | @invoked _ _ k e takes =>
    have hk : h ≠ k := fun hk => ho (by rw [hk]; rfl)
    rw [takes.notifications.get?, if_neg hk, hn]
    rfl

/-- A selection queues a waiting notification if there is a reason, and leaves it alone otherwise. -/
theorem mark_armed (r : Reactor α) (reported : List Conditions) (now : Instant) (request : Request α)
    (due : Option Instant) (g : Handle) :
    r.mark reported now (request.armed due g) =
      if (r.reasonFor reported now request due).isEmpty then request.armed due g
      else request.queued due (r.reasonFor reported now request due) := by
  have hsel : r.isSelected reported now (request.armed due g) =
      !(r.reasonFor reported now request due).isEmpty := by
    rw [isSelected, maskOf_armed]
    rfl
  unfold mark
  rw [hsel, maskOf_armed]
  cases (r.reasonFor reported now request due).isEmpty <;> rfl

/-- What stands in the ready queue is not selected again. -/
theorem after_queued (r : Reactor α) (request : Request α) (due : Option Instant) (reason : Events)
    (o : Option (Occurrence α)) :
    Occurrence.after r (request.queued due reason) o = request.queued due reason := by
  unfold Occurrence.after
  split
  · rfl
  · rfl

end Reactor

namespace Machine

variable {host : Host σ α} {m : Machine σ α} {h : Handle} {request : Request α} {due : Option Instant}
  {j n : Nat}

theorem freed_of_invoked {k : Nat} {e : Event α} (ho : m.occurrenceAt host k = some (.invoked h e)) :
    (m.occurrenceAt host k).bind Occurrence.freed? = some h :=
  Occurrence.bind_freed?_eq_some.mpr (Or.inr ⟨e, ho⟩)

/-- A step gives a tick a reason to select the notification of a request. -/
def Meets (host : Host σ α) (m : Machine σ α) (request : Request α) (due : Option Instant) (t : Nat) :
    Prop :=
  ∃ reported now, m.occurrenceAt host t = some (.selected reported now) ∧
    (((m.reactorAt host t).metBy reported request).isEmpty = false ∨ due.any (·.le now) = true)

/-- A step moves a notification to the ready queue. -/
def Picked (host : Host σ α) (m : Machine σ α) (h : Handle) (t : Nat) : Prop :=
  h ∉ (m.reactorAt host t).ready ∧ h ∈ (m.reactorAt host (t + 1)).ready

/-- The notification waits, and no tick had a reason to select it. -/
def Waits (host : Host σ α) (m : Machine σ α) (h : Handle) (request : Request α)
    (due : Option Instant) (j n : Nat) : Prop :=
  (∃ g, (m.reactorAt host n).notifications.get? h = some (request.armed due g)) ∧
    ∀ t, j < t → t < n → ¬Meets host m request due t

/-- The notification stands in the ready queue, for the first reason that a tick had. -/
def Queues (host : Host σ α) (m : Machine σ α) (h : Handle) (request : Request α)
    (due : Option Instant) (j n : Nat) : Prop :=
  ∃ t reported now, j < t ∧ t < n ∧ Waits host m h request due j t ∧
    m.occurrenceAt host t = some (.selected reported now) ∧
    ((m.reactorAt host t).reasonFor reported now request due).isEmpty = false ∧
    (m.reactorAt host n).notifications.get? h =
      some (request.queued due ((m.reactorAt host t).reasonFor reported now request due))

/-- The first reason that a tick has queues a waiting notification. -/
theorem queues_of_reason (hm : m.system.reactor.WellFormed) (hjn : j < n)
    (hw : Waits host m h request due j n) {reported : List Conditions} {now : Instant}
    (ho : m.occurrenceAt host n = some (.selected reported now))
    (hne : ((m.reactorAt host n).reasonFor reported now request due).isEmpty = false) :
    Queues host m h request due j (n + 1) := by
  obtain ⟨g, hg⟩ := hw.1
  refine ⟨n, reported, now, hjn, Nat.lt_succ_self n, hw, ho, hne, ?_⟩
  have hkeep : (m.occurrenceAt host n).bind Occurrence.freed? ≠ some h := by
    rw [ho]
    nofun
  rw [(effect_at host hm n).get?_of_kept hg hkeep, ho, Occurrence.after, Reactor.mark_armed, hne]
  rfl

/-- Without a reason a waiting notification goes on waiting. -/
theorem waits_of_not_meets (hm : m.system.reactor.WellFormed)
    (hw : Waits host m h request due j n) (hmet : ¬Meets host m request due n)
    (hkeep : (m.occurrenceAt host n).bind Occurrence.freed? ≠ some h) :
    Waits host m h request due j (n + 1) := by
  obtain ⟨g, hg⟩ := hw.1
  refine ⟨⟨g, ?_⟩, fun t hjt htn => ?_⟩
  · rw [(effect_at host hm n).get?_of_kept hg hkeep]
    unfold Occurrence.after
    split
    · next reported now ho =>
      have hempty : ((m.reactorAt host n).reasonFor reported now request due).isEmpty = true := by
        by_contra hne
        exact hmet ⟨reported, now, ho, Reactor.reasonFor_isEmpty.mp (eq_false_of_ne_true hne)⟩
      rw [Reactor.mark_armed, hempty]
      rfl
    · rfl
  · rcases Nat.lt_succ_iff_lt_or_eq.mp htn with hlt | rfl
    · exact hw.2 t hjt hlt
    · exact hmet

/-- What stands in the ready queue stays there until it is given up. -/
theorem queues_of_kept (hm : m.system.reactor.WellFormed)
    (hq : Queues host m h request due j n)
    (hkeep : (m.occurrenceAt host n).bind Occurrence.freed? ≠ some h) :
    Queues host m h request due j (n + 1) := by
  obtain ⟨t, reported, now, hjt, htn, hw, ho, hne, hget⟩ := hq
  refine ⟨t, reported, now, hjt, Nat.lt_succ_of_lt htn, hw, ho, hne, ?_⟩
  rw [(effect_at host hm n).get?_of_kept hget hkeep, Reactor.after_queued]

/-- **Before it is given up, a notification waits for a reason, or stands in the ready queue for the first
one.** The induction goes over the steps since its registration. -/
theorem phase_of_registered (hm : m.system.reactor.WellFormed)
    (hreg : m.occurrenceAt host j = some (.registered h request due)) (hjn : j < n)
    (hkeep : ∀ k, j < k → k < n → (m.occurrenceAt host k).bind Occurrence.freed? ≠ some h) :
    Waits host m h request due j n ∨ Queues host m h request due j n := by
  induction n with
  | zero => exact absurd hjn (Nat.not_lt_zero _)
  | succ n ih =>
    rcases Nat.lt_succ_iff_lt_or_eq.mp hjn with hlt | rfl
    · rcases ih hlt fun k hjk hkn => hkeep k hjk (Nat.lt_succ_of_lt hkn) with hw | hq
      · by_cases hmet : Meets host m request due n
        · obtain ⟨reported, now, ho, hreason⟩ := hmet
          exact Or.inr (queues_of_reason hm hlt hw ho (Reactor.reasonFor_isEmpty.mpr hreason))
        · exact Or.inl (waits_of_not_meets hm hw hmet (hkeep n hlt (Nat.lt_succ_self n)))
      · exact Or.inr (queues_of_kept hm hq (hkeep n hlt (Nat.lt_succ_self n)))
    · have he := effect_at host hm j
      rw [hreg] at he
      cases he with
      | @registered _ _ _ _ _ g arms =>
        exact Or.inl ⟨⟨g, by rw [arms.notifications.get?, if_pos rfl]⟩, fun t hjt htj => by omega⟩

theorem not_mem_ready_of_waits (hm : m.system.reactor.WellFormed)
    (hw : Waits host m h request due j n) : h ∉ (m.reactorAt host n).ready := by
  intro hq
  obtain ⟨g, hg⟩ := hw.1
  obtain ⟨v, hv, hp⟩ := ((wellFormed_reactorAt host hm n).mem_ready h).mp hq
  rw [hg] at hv
  cases hv
  cases hp

theorem mem_ready_of_queues (hm : m.system.reactor.WellFormed)
    (hq : Queues host m h request due j n) : h ∈ (m.reactorAt host n).ready := by
  obtain ⟨t, reported, now, -, -, -, -, -, hget⟩ := hq
  exact ((wellFormed_reactorAt host hm n).mem_ready h).mpr ⟨_, hget, rfl⟩

/-! ## Selected, and invoked -/

/-- A queued notification was picked, when a tick had a reason for the first time. -/
theorem picked_of_reason (hm : m.system.reactor.WellFormed) (hjn : j < n)
    (hw : Waits host m h request due j n) {reported : List Conditions} {now : Instant}
    (ho : m.occurrenceAt host n = some (.selected reported now))
    (hne : ((m.reactorAt host n).reasonFor reported now request due).isEmpty = false) :
    Picked host m h n :=
  ⟨not_mem_ready_of_waits hm hw, mem_ready_of_queues hm (queues_of_reason hm hjn hw ho hne)⟩

theorem meets_of_queues (hq : Queues host m h request due j n) :
    ∃ t, j < t ∧ t < n ∧ Meets host m request due t := by
  obtain ⟨t, reported, now, hjt, htn, -, ho, hne, -⟩ := hq
  exact ⟨t, hjt, htn, reported, now, ho, Reactor.reasonFor_isEmpty.mp hne⟩

/-- Before its generation comes round, a handle that resolves is in one of the two phases. -/
theorem phase_of_isPending (hm : m.system.reactor.Initial) (hjn : j < n)
    (hfew : m.releases host h.index n < 2 ^ 64)
    (hreg : m.occurrenceAt host j = some (.registered h request due))
    (hp : (m.reactorAt host n).isPending h = true) :
    Waits host m h request due j n ∨ Queues host m h request due j n :=
  phase_of_registered (Reactor.wellFormed_of_initial hm) hreg hjn
    ((isPending_iff_of_registered hm hjn hfew hreg).mp hp)

/-- What is invoked stood in the ready queue, and its callback is given what was noted down there. -/
theorem queues_of_invoked (hm : m.system.reactor.Initial) (hjn : j < n)
    (hfew : m.releases host h.index n < 2 ^ 64)
    (hreg : m.occurrenceAt host j = some (.registered h request due)) {e : Event α}
    (ho : m.occurrenceAt host n = some (.invoked h e)) :
    Queues host m h request due j n ∧
      ∃ v, (m.reactorAt host n).notifications.get? h = some v ∧ v.Tells e := by
  have hwf := Reactor.wellFormed_of_initial hm
  have he := effect_at host hwf n
  have hp := he.isPending_of_freed (freed_of_invoked ho)
  rw [ho] at he
  cases he with
  | invoked takes =>
    obtain ⟨v, hv, -, htells⟩ := takes.tells
    refine ⟨?_, v, hv, htells⟩
    rcases phase_of_isPending hm hjn hfew hreg hp with hw | hq
    · refine absurd ?_ (not_mem_ready_of_waits hwf hw)
      rw [takes.ready]
      exact List.mem_cons_self
    · exact hq

/-- A notification is selected at the first tick with a reason, unless it was withdrawn before. -/
theorem picked_iff (hm : m.system.reactor.Initial) (hjn : j < n)
    (hfew : m.releases host h.index (n + 1) < 2 ^ 64)
    (hreg : m.occurrenceAt host j = some (.registered h request due)) :
    Picked host m h n ↔
      Meets host m request due n ∧
        ∀ t, j < t → t < n → ¬Meets host m request due t ∧ m.occurrenceAt host t ≠ some (.cancelled h) := by
  have hwf := Reactor.wellFormed_of_initial hm
  have hfew' : ∀ k, k ≤ n → m.releases host h.index k < 2 ^ 64 := fun k hk =>
    Nat.lt_of_le_of_lt (releases_mono host m h.index (Nat.le_succ_of_le hk)) hfew
  constructor
  · rintro ⟨hnot, hmem⟩
    obtain ⟨v, hv, -⟩ := ((wellFormed_reactorAt host hwf (n + 1)).mem_ready h).mp hmem
    have hkeep := (isPending_iff_of_registered hm (Nat.lt_succ_of_lt hjn) hfew hreg).mp
      (Pool.contains_eq_true.mpr ⟨v, hv⟩)
    rcases phase_of_registered hwf hreg hjn fun k hjk hkn => hkeep k hjk (Nat.lt_succ_of_lt hkn) with
      hw | hq
    · refine ⟨?_, fun t hjt htn => ⟨hw.2 t hjt htn, fun hc => ?_⟩⟩
      · by_contra hmet
        exact not_mem_ready_of_waits hwf
          (waits_of_not_meets hwf hw hmet (hkeep n hjn (Nat.lt_succ_self n))) hmem
      · exact hkeep t hjt (Nat.lt_succ_of_lt htn) (Occurrence.bind_freed?_eq_some.mpr (Or.inl hc))
    · exact absurd (mem_ready_of_queues hwf hq) hnot
  · rintro ⟨⟨reported, now, ho, hreason⟩, hbefore⟩
    -- an invocation before would have needed a reason before
    have hkeep : ∀ k, j < k → k < n → (m.occurrenceAt host k).bind Occurrence.freed? ≠ some h := by
      intro k hjk hkn hk
      rcases Occurrence.bind_freed?_eq_some.mp hk with hc | ⟨e, hinv⟩
      · exact (hbefore k hjk hkn).2 hc
      · obtain ⟨hq, -⟩ := queues_of_invoked hm hjk (hfew' k (Nat.le_of_lt hkn)) hreg hinv
        obtain ⟨t, hjt, htk, hmet⟩ := meets_of_queues hq
        exact (hbefore t hjt (Nat.lt_trans htk hkn)).1 hmet
    rcases phase_of_registered hwf hreg hjn hkeep with hw | hq
    · exact picked_of_reason hwf hjn hw ho (Reactor.reasonFor_isEmpty.mpr hreason)
    · obtain ⟨t, hjt, htn, hmet⟩ := meets_of_queues hq
      exact absurd hmet (hbefore t hjt htn).1

/-- An invocation hands over what the request asked for, with the reason of the first tick that had one. -/
theorem event_of_invoked (hm : m.system.reactor.Initial) (hjn : j < n)
    (hfew : m.releases host h.index n < 2 ^ 64)
    (hreg : m.occurrenceAt host j = some (.registered h request due)) {e : Event α}
    (ho : m.occurrenceAt host n = some (.invoked h e)) :
    ∃ t reported now, j < t ∧ t < n ∧ Picked host m h t ∧
      m.occurrenceAt host t = some (.selected reported now) ∧
      e = request.event ((m.reactorAt host t).reasonFor reported now request due) := by
  obtain ⟨⟨t, reported, now, hjt, htn, hw, hsel, hne, hget⟩, v, hv, htells⟩ :=
    queues_of_invoked hm hjn hfew hreg ho
  rw [hget] at hv
  cases hv
  refine ⟨t, reported, now, hjt, htn,
    picked_of_reason (Reactor.wellFormed_of_initial hm) hjt hw hsel hne, hsel, htells.eq_event⟩

/-- Only a registered handle is invoked, and after its registration. -/
theorem lt_of_invoked (hm : m.system.reactor.Initial) (hfew : m.releases host h.index j < 2 ^ 64)
    (hreg : m.occurrenceAt host j = some (.registered h request due)) {e : Event α}
    (ho : m.occurrenceAt host n = some (.invoked h e)) : j < n := by
  by_contra hle
  rcases Nat.lt_or_eq_of_le (Nat.le_of_not_lt hle) with hnj | rfl
  · exact not_registered_after hm hfew (freed_of_invoked ho) hnj _ _ hreg
  · rw [hreg] at ho
    cases ho

/-- A notification has its turn when a tick looks at the ready queue and finds it first. -/
theorem invoked_iff_turn (hm : m.system.reactor.WellFormed) :
    (∃ e, m.occurrenceAt host n = some (.invoked h e)) ↔
      (∃ served, (m.run host n).control = .drain served) ∧ (m.reactorAt host n).ready.head? = some h := by
  constructor
  · rintro ⟨e, ho⟩
    obtain ⟨served, rest, r, hc, hq, -⟩ := exists_drain_of_occurrence ho
    exact ⟨⟨served, hc⟩, by rw [reactorAt, hq]; rfl⟩
  · rintro ⟨⟨served, hc⟩, hhead⟩
    rcases Reactor.takeReady_cases (wellFormed_reactorAt host hm n) with ⟨hq, -⟩ | ⟨k, e, r, ht, htakes⟩
    · rw [hq] at hhead
      cases hhead
    · rw [htakes.ready] at hhead
      cases hhead
      refine ⟨e, ?_⟩
      unfold occurrenceAt occurrence
      rw [hc]
      exact Reactor.dispatched_eq_some.mpr ⟨h, _, e, r, htakes.ready, ht, rfl⟩

/-- When no tick is in progress any more, a picked notification was invoked or withdrawn. -/
theorem freed_of_picked (hm : m.system.reactor.Initial)
    (hfew : m.releases host h.index n < 2 ^ 64)
    (hreg : m.occurrenceAt host j = some (.registered h request due)) {t : Nat} (hjt : j < t)
    (htn : t < n) (hpick : Picked host m h t) (hout : (m.run host n).inTick = false) :
    ∃ k, j < k ∧ k < n ∧ (m.occurrenceAt host k).bind Occurrence.freed? = some h := by
  have hwf := Reactor.wellFormed_of_initial hm
  by_contra hnone
  -- it would still stand in the ready queue, which is empty outside of ticks
  have hkeep : ∀ k, j < k → k < n → (m.occurrenceAt host k).bind Occurrence.freed? ≠ some h :=
    fun k hjk hkn hk => hnone ⟨k, hjk, hkn, hk⟩
  have hfew' := Nat.lt_of_le_of_lt (releases_mono host m h.index (Nat.succ_le_of_lt htn)) hfew
  have hmet := ((picked_iff hm hjt hfew' hreg).mp hpick).1
  rcases phase_of_registered hwf hreg (Nat.lt_trans hjt htn) hkeep with hw | hq
  · exact hw.2 t hjt htn hmet
  · have hmem := mem_ready_of_queues hwf hq
    rw [ready_eq_nil_of_not_inTick hwf (Reactor.ready_of_initial hm) n hout] at hmem
    cases hmem

/-- Of two invocations the second would find the handle stale. -/
theorem eq_of_invoked (hm : m.system.reactor.Initial)
    (hfew : ∀ k, k ≤ n → m.releases host h.index k < 2 ^ 64) {k l : Nat} (hk : k < n) (hl : l < n)
    {e f : Event α} (hok : m.occurrenceAt host k = some (.invoked h e))
    (hol : m.occurrenceAt host l = some (.invoked h f)) : k = l := by
  rcases Nat.lt_trichotomy k l with hkl | hkl | hlk
  · exact absurd (freed_of_invoked hol)
      (not_freed_after hm (hfew l (Nat.le_of_lt hl)) (freed_of_invoked hok) hkl)
  · exact hkl
  · exact absurd (freed_of_invoked hok)
      (not_freed_after hm (hfew k (Nat.le_of_lt hk)) (freed_of_invoked hol) hlk)

/-- What is invoked was not withdrawn, neither before nor after. -/
theorem not_cancelled_of_invoked (hm : m.system.reactor.Initial)
    (hfew : ∀ k, k ≤ n → m.releases host h.index k < 2 ^ 64) {k c : Nat} (hk : k < n) (hc : c < n)
    {e : Event α} (ho : m.occurrenceAt host k = some (.invoked h e)) :
    m.occurrenceAt host c ≠ some (.cancelled h) := by
  intro hcancel
  have hfreed := Occurrence.bind_freed?_eq_some.mpr (Or.inl hcancel)
  rcases Nat.lt_trichotomy k c with hkc | rfl | hck
  · exact not_freed_after hm (hfew c (Nat.le_of_lt hc)) (freed_of_invoked ho) hkc hfreed
  · rw [ho] at hcancel
    cases hcancel
  · exact not_freed_after hm (hfew k (Nat.le_of_lt hk)) hfreed hck (freed_of_invoked ho)

/-! ## Exactly once -/

/-- What has become, after a number of steps, of a registration at an earlier one. -/
structure Delivery (host : Host σ α) (m : Machine σ α) (h : Handle) (request : Request α)
    (due : Option Instant) (j n : Nat) : Prop where
  /-- It is due at the instant that its timeout came to. -/
  dueTime : (host.dueTime (m.run host j).system request.timeout).1 = .ok due
  /-- It is selected at the first tick with a reason, unless it was withdrawn before. -/
  picked : ∀ t, j < t → t < n → (Picked host m h t ↔
    Meets host m request due t ∧
      ∀ c, j < c → c < t → ¬Meets host m request due c ∧ m.occurrenceAt host c ≠ some (.cancelled h))
  /-- It is invoked once at most. -/
  once : ∀ k l e f, k < n → l < n → m.occurrenceAt host k = some (.invoked h e) →
    m.occurrenceAt host l = some (.invoked h f) → k = l
  /-- It is invoked after it was selected, with its own descriptor, argument and callback, and with the
  reason of that tick. -/
  event : ∀ k e, k < n → m.occurrenceAt host k = some (.invoked h e) →
    ∃ t reported now, j < t ∧ t < k ∧ Picked host m h t ∧
      m.occurrenceAt host t = some (.selected reported now) ∧
      e = request.event ((m.reactorAt host t).reasonFor reported now request due)
  /-- Its turn comes when a tick looks at the ready queue and finds it first. -/
  turn : ∀ k, k < n → ((∃ e, m.occurrenceAt host k = some (.invoked h e)) ↔
    (∃ served, (m.run host k).control = .drain served) ∧ (m.reactorAt host k).ready.head? = some h)
  /-- When the outermost tick is over, it was invoked if it was selected and not withdrawn, and only
  then. -/
  invoked : (m.run host n).inTick = false →
    ((∃ k e, k < n ∧ m.occurrenceAt host k = some (.invoked h e)) ↔
      (∃ t, j < t ∧ t < n ∧ Picked host m h t) ∧
        ∀ c, j < c → c < n → m.occurrenceAt host c ≠ some (.cancelled h))
  /-- Without a deadline it is never told that the deadline has passed. -/
  infinite : request.timeout = .infinite →
    ∀ k e, k < n → m.occurrenceAt host k = some (.invoked h e) → e.triggered ≠ .timeout

/-- **Every registration is dispatched exactly once, if a tick selects it and it is not withdrawn.** -/
theorem dispatched_exactly_once {y : System σ α} (hy : y.reactor.Initial) (host : Host σ α)
    (p : Program σ α) {j n : Nat} (hjn : j < n)
    (hfew : ∀ i, (start y p).releases host i n < 2 ^ 64) {h : Handle} {request : Request α}
    {due : Option Instant}
    (hreg : (start y p).occurrenceAt host j = some (.registered h request due)) :
    (start y p).Delivery host h request due j n := by
  have hwf : (start y p).system.reactor.WellFormed := Reactor.wellFormed_of_initial hy
  have hfew' : ∀ k, k ≤ n → (start y p).releases host h.index k < 2 ^ 64 := fun k hk =>
    Nat.lt_of_le_of_lt (releases_mono host (start y p) h.index hk) (hfew h.index)
  have hlt : ∀ k e, (start y p).occurrenceAt host k = some (.invoked h e) → j < k := fun k e ho =>
    lt_of_invoked (m := start y p) hy (hfew' j (Nat.le_of_lt hjn)) hreg ho
  have hdue := (exists_register_of_occurrence hreg).choose_spec.2.2
  have hevent : ∀ k e, k < n → (start y p).occurrenceAt host k = some (.invoked h e) → _ :=
    fun k e hk ho =>
      event_of_invoked (m := start y p) hy (hlt k e ho) (hfew' k (Nat.le_of_lt hk)) hreg ho
  refine ⟨hdue, ?_, ?_, hevent, ?_, ?_, ?_⟩
  · intro t hjt htn
    exact picked_iff (m := start y p) hy hjt (hfew' (t + 1) htn) hreg
  · exact fun k l e f hk hl => eq_of_invoked (m := start y p) hy hfew' hk hl
  · exact fun k _ => invoked_iff_turn hwf
  · intro hout
    constructor
    · rintro ⟨k, e, hk, ho⟩
      obtain ⟨t, -, -, hjt, htk, hpick, -, -⟩ := hevent k e hk ho
      exact ⟨⟨t, hjt, Nat.lt_trans htk hk, hpick⟩, fun c _ hc =>
        not_cancelled_of_invoked (m := start y p) hy hfew' hk hc ho⟩
    · rintro ⟨⟨t, hjt, htn, hpick⟩, hnot⟩
      obtain ⟨k, hjk, hkn, hk⟩ :=
        freed_of_picked (m := start y p) hy (hfew h.index) hreg hjt htn hpick hout
      rcases Occurrence.bind_freed?_eq_some.mp hk with hc | ⟨e, ho⟩
      · exact absurd hc (hnot k hjk hkn)
      · exact ⟨k, e, hkn, ho⟩
  · intro hinf k e hk ho
    obtain ⟨t, reported, now, -, -, -, -, rfl⟩ := hevent k e hk ho
    rw [hinf] at hdue
    cases hdue
    exact Reactor.reasonFor_ne_timeout

theorem dispatched_after_read :
    0 < 5 ∧ (∀ i, (start .unused .readOnce).releases .steady i 5 < 2 ^ 64) ∧
      (start .unused .readOnce).occurrenceAt .steady 0 =
        some (.registered { index := 0, generation := 0 } .toRead none) ∧
      ((start .unused .readOnce).run .steady 5).inTick = false ∧
      (start .unused .readOnce).Delivery .steady { index := 0, generation := 0 } .toRead none 0 5 := by
  have hfew : ∀ i, (start .unused .readOnce).releases .steady i 5 < 2 ^ 64 := fun i =>
    Nat.lt_of_le_of_lt (releases_le _ _ i 5) (by decide)
  exact ⟨by decide, hfew, rfl, rfl,
    dispatched_exactly_once (y := .unused) (.empty _) .steady .readOnce (by decide) hfew rfl⟩

end Machine

end EventLoop
