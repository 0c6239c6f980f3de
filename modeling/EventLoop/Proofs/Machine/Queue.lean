import EventLoop.Proofs.Machine.History
import EventLoop.Proofs.Machine.Nesting

/-!
# The ready queue along a run

The ready queue holds handles. What a callback will be given is noted down in the notification when it is
selected and does not change any more, so the queue can be read as a queue of events (`Reactor.queue`).

* `queue_of_effect` — a step takes out of the queue what it gives back, and a selection appends to it.
* `conserved` — of what was ever appended and not withdrawn, what has left the queue was invoked, in this
  order, and the rest stands in the queue.
-/

namespace EventLoop

variable {σ α : Type}

/-- Is it a withdrawal? -/
def Occurrence.isWithdrawal : Occurrence α → Bool
  | .cancelled _ => true
  | _ => false

/-- What the callback of a notification is given; none if there is no callback. -/
def Notification.event? (n : Notification α) : Option (Event α) :=
  n.payload.map fun p =>
    { descriptor := n.descriptor, triggered := n.triggered, arg := p.2, callback := p.1 }

theorem Notification.Tells.event?_eq {n : Notification α} {e : Event α} (h : n.Tells e) :
    n.event? = some e := by
  rcases e with ⟨descriptor, triggered, arg, callback⟩
  have hd : descriptor = n.descriptor := h.descriptor
  have ht : triggered = n.triggered := h.triggered
  rw [event?, show n.payload = some (callback, arg) from h.payload, hd, ht]
  rfl

namespace Reactor

/-- What stands in the ready queue under a handle. -/
def queued (r : Reactor α) (h : Handle) : Option (Handle × Event α) :=
  ((r.notifications.get? h).bind Notification.event?).map (h, ·)

/-- The ready queue, with the events that the callbacks will be given. -/
def queue (r : Reactor α) : List (Handle × Event α) := r.ready.filterMap r.queued

theorem exists_queued {r : Reactor α} (hr : r.WellFormed) {h : Handle} (hh : h ∈ r.ready) :
    ∃ e, r.queued h = some (h, e) := by
  obtain ⟨n, hn, -⟩ := (hr.mem_ready h).mp hh
  have hevent : n.event?.isSome = true := by
    rw [Notification.event?, Option.isSome_map]
    exact (hr.sound h n hn).payload
  obtain ⟨e, he⟩ := Option.isSome_iff_exists.mp hevent
  exact ⟨e, by rw [queued, hn, Option.bind_some, he, Option.map_some]⟩

theorem queue_map_fst {r : Reactor α} (hr : r.WellFormed) : r.queue.map Prod.fst = r.ready := by
  have hmap : ∀ l : List Handle, l ⊆ r.ready → (l.filterMap r.queued).map Prod.fst = l := by
    intro l
    induction l with
    | nil => exact fun _ => rfl
    | cons h rest ih =>
      intro hsub
      obtain ⟨e, he⟩ := exists_queued hr (hsub List.mem_cons_self)
      rw [List.filterMap_cons_some he, List.map_cons, ih fun k hk => hsub (List.mem_cons_of_mem _ hk)]
  exact hmap r.ready (List.Subset.refl _)

theorem queue_nodup {r : Reactor α} (hr : r.WellFormed) : (r.queue.map Prod.fst).Nodup := by
  rw [queue_map_fst hr]
  exact hr.ready_nodup

theorem queued_congr {r r' : Reactor α} {l : List Handle}
    (h : ∀ k ∈ l, r'.notifications.get? k = r.notifications.get? k) :
    l.filterMap r'.queued = l.filterMap r.queued := by
  refine List.filterMap_congr fun k hk => ?_
  rw [queued, queued, h k hk]

theorem filterMap_queued_filter (r : Reactor α) (keep : Handle → Bool) (l : List Handle) :
    (l.filter keep).filterMap r.queued = (l.filterMap r.queued).filter fun q => keep q.1 := by
  rw [List.filterMap_filter, List.filter_filterMap]
  refine List.filterMap_congr fun h _ => ?_
  unfold queued
  cases (r.notifications.get? h).bind Notification.event? with
  | none => simp
  | some e => simp [Option.filter]

/-! ## One step -/

variable {o : Option (Occurrence α)} {r r' : Reactor α}

theorem Withdraws.queue_eq {h : Handle} (w : r.Withdraws h r') :
    r'.queue = r.queue.filter fun q => decide (q.1 ≠ h) := by
  unfold queue
  rw [w.ready, ← r.filterMap_queued_filter fun k => decide (k ≠ h)]
  refine queued_congr fun k hk => ?_
  rw [w.notifications.get?, if_neg (by simpa using (List.mem_filter.mp hk).2)]

/-- The first in the queue is what the callback is given, and the others move up. -/
theorem Takes.queue_eq {h : Handle} {e : Event α} (t : r.Takes h e r') (hr : r.WellFormed) :
    r.queue = (h, e) :: r'.queue := by
  obtain ⟨n, hn, -, htells⟩ := t.tells
  have hhead : r.queued h = some (h, e) := by
    rw [queued, hn, Option.bind_some, htells.event?_eq]
    rfl
  have hnd : (h :: r'.ready).Nodup := t.ready ▸ hr.ready_nodup
  unfold queue
  rw [t.ready, List.filterMap_cons_some hhead]
  refine congrArg _ (queued_congr fun k hk => ?_).symm
  have hkh : k ≠ h := fun he => (List.nodup_cons.mp hnd).1 (he ▸ hk)
  rw [t.notifications.get?, if_neg hkh]

/-- What stands in the queue already is not touched by a selection. -/
theorem Selects.queue_eq {reported : List Conditions} {now : Instant} (s : r.Selects reported now r')
    (hr : r.WellFormed) : ∃ added, r'.queue = r.queue ++ added := by
  have hkeep : ∀ k ∈ r.ready, r'.notifications.get? k = r.notifications.get? k := by
    intro k hk
    obtain ⟨n, hn, hp⟩ := (hr.mem_ready k).mp hk
    rw [s.notifications.get?, hn, Option.map_some, mark, if_neg (by simp [isSelected, hp])]
  unfold queue
  rw [s.ready, List.filterMap_append, queued_congr hkeep]
  exact ⟨_, rfl⟩

/-- **A step takes out of the queue what it gives back, and only a selection appends to it.** -/
theorem queue_of_effect (he : Effect o r r') (hr : r.WellFormed) :
    ∃ added, r'.queue = (r.queue.filter fun q => decide (o.bind Occurrence.freed? ≠ some q.1)) ++ added ∧
      (o.any Occurrence.isSelection = false → added = []) := by
  cases he with
  | none rests =>
    refine ⟨[], ?_, fun _ => rfl⟩
    have heq : r'.queue = r.queue := by
      rw [queue, rests.ready, queued_congr (r := r) fun k _ => by rw [rests.notifications]]
      rfl
    simp [heq]
  | @registered _ _ _ _ h _ arms =>
    refine ⟨[], ?_, fun _ => rfl⟩
    have hkeep : ∀ k ∈ r.ready, r'.notifications.get? k = r.notifications.get? k := by
      intro k hk
      rw [arms.notifications.get?, if_neg]
      rintro rfl
      obtain ⟨n, hn, -⟩ := (hr.mem_ready k).mp hk
      rw [arms.notifications.absent] at hn
      cases hn
    have heq : r'.queue = r.queue := by
      rw [queue, arms.ready, queued_congr hkeep]
      rfl
    simp [heq, Occurrence.freed?]
  | cancelled withdraws =>
    refine ⟨[], ?_, fun _ => rfl⟩
    rw [withdraws.queue_eq, List.append_nil]
    exact List.filter_congr fun q _ => by simp [Occurrence.freed?, eq_comm]
  | selected selects =>
    obtain ⟨added, hadded⟩ := selects.queue_eq hr
    refine ⟨added, ?_, by simp [Occurrence.isSelection]⟩
    rw [hadded]
    simp [Occurrence.freed?]
  | @invoked _ _ h e takes =>
    refine ⟨[], ?_, fun _ => rfl⟩
    have heq := takes.queue_eq hr
    have hnd := queue_nodup hr
    rw [heq, List.map_cons, List.nodup_cons] at hnd
    rw [heq, List.append_nil, List.filter_cons_of_neg (by simp [Occurrence.freed?])]
    refine (List.filter_eq_self.mpr ?_).symm
    rintro ⟨k, f⟩ hq
    have hne : h ≠ k := by
      rintro rfl
      exact hnd.1 (List.mem_map.mpr ⟨(h, f), hq, rfl⟩)
    simpa [Occurrence.freed?] using hne

end Reactor

namespace Machine

/-! ## Whole runs -/

/-- The ready queue after a number of steps. -/
def queueAt (host : Host σ α) (m : Machine σ α) (k : Nat) : List (Handle × Event α) :=
  (m.reactorAt host k).queue

/-- What stands in the queue after a step, behind as many as stood there before. -/
def appendedAt (host : Host σ α) (m : Machine σ α) (k : Nat) : List (Handle × Event α) :=
  (m.queueAt host (k + 1)).drop (m.queueAt host k).length

/-- All that was appended to the queue in a number of steps, in order, with the steps. -/
def arrivals (host : Host σ α) (m : Machine σ α) (n : Nat) : List (Nat × Handle × Event α) :=
  (List.range n).flatMap fun k => (m.appendedAt host k).map (k, ·)

/-- The step that gave back what had been appended, the first one after that; none if no step did. -/
def departure (host : Host σ α) (m : Machine σ α) (n : Nat) (a : Nat × Handle × Event α) : Option Nat :=
  (List.range n).find? fun k =>
    decide (a.1 < k ∧ (m.occurrenceAt host k).bind Occurrence.freed? = some a.2.1)

/-- Was what had been appended withdrawn before its turn came? -/
def isWithdrawn (host : Host σ α) (m : Machine σ α) (n : Nat) (a : Nat × Handle × Event α) : Bool :=
  (m.departure host n a).any fun k => (m.occurrenceAt host k).any Occurrence.isWithdrawal

/-- What was appended and not withdrawn, with the step at which it left the queue. -/
def deliveries (host : Host σ α) (m : Machine σ α) (n : Nat) : List (Option Nat × Handle × Event α) :=
  ((m.arrivals host n).filter fun a => !m.isWithdrawn host n a).map fun a => (m.departure host n a, a.2)

variable {host : Host σ α} {m : Machine σ α}

/-- A selection gives nothing back. -/
theorem freed_of_isSelection {o : Option (Occurrence α)} (h : o.any Occurrence.isSelection = true) :
    o.bind Occurrence.freed? = none := by
  obtain ⟨o, rfl, hs⟩ := (Option.any_eq_true _ _).mp h
  cases o <;> first | rfl | cases hs

theorem queueAt_succ (host : Host σ α) (hm : m.system.reactor.WellFormed) (n : Nat) :
    m.queueAt host (n + 1) =
        ((m.queueAt host n).filter fun q =>
          decide ((m.occurrenceAt host n).bind Occurrence.freed? ≠ some q.1)) ++ m.appendedAt host n ∧
      ((m.occurrenceAt host n).any Occurrence.isSelection = false → m.appendedAt host n = []) := by
  obtain ⟨added, hadded, hnil⟩ :=
    Reactor.queue_of_effect (effect_at host hm n) (wellFormed_reactorAt host hm n)
  have happended : m.appendedAt host n = added := by
    unfold appendedAt queueAt
    rw [hadded]
    cases hsel : (m.occurrenceAt host n).any Occurrence.isSelection with
    | false =>
      rw [hnil hsel, List.append_nil]
      exact List.drop_eq_nil_of_le (List.length_filter_le _ _)
    | true => rw [freed_of_isSelection hsel, List.filter_eq_self.mpr (by simp), List.drop_left]
  rw [happended]
  exact ⟨hadded, hnil⟩

theorem queueAt_of_selection (hm : m.system.reactor.WellFormed) {n : Nat}
    (hsel : (m.occurrenceAt host n).any Occurrence.isSelection = true) :
    m.queueAt host (n + 1) = m.queueAt host n ++ m.appendedAt host n := by
  rw [(queueAt_succ host hm n).1, freed_of_isSelection hsel, List.filter_eq_self.mpr (by simp)]

theorem arrivals_succ (n : Nat) :
    m.arrivals host (n + 1) = m.arrivals host n ++ (m.appendedAt host n).map (n, ·) := by
  unfold arrivals
  rw [List.range_succ, List.flatMap_append, List.flatMap_singleton]

theorem lt_of_mem_arrivals {n : Nat} {a : Nat × Handle × Event α} (ha : a ∈ m.arrivals host n) :
    a.1 < n := by
  obtain ⟨k, hk, hak⟩ := List.mem_flatMap.mp ha
  obtain ⟨q, -, rfl⟩ := List.mem_map.mp hak
  exact List.mem_range.mp hk

theorem departure_succ {n : Nat} {a : Nat × Handle × Event α} (ha : a.1 < n) :
    m.departure host (n + 1) a =
      (m.departure host n a).or
        (if (m.occurrenceAt host n).bind Occurrence.freed? = some a.2.1 then some n else none) := by
  unfold departure
  rw [List.range_succ, List.find?_append]
  refine congrArg _ ?_
  by_cases hfreed : (m.occurrenceAt host n).bind Occurrence.freed? = some a.2.1
  · simp [ha, hfreed]
  · simp [hfreed]

theorem departure_of_le {n : Nat} {a : Nat × Handle × Event α} (hn : n ≤ a.1 + 1) :
    m.departure host n a = none := by
  refine List.find?_eq_none.mpr fun k hk => ?_
  have := List.mem_range.mp hk
  simp only [decide_eq_true_eq, not_and]
  omega

/-- What is known of something appended: nothing more if it was withdrawn. -/
def fate (host : Host σ α) (m : Machine σ α) (n : Nat) (a : Nat × Handle × Event α) :
    Option (Option Nat × Handle × Event α) :=
  if m.isWithdrawn host n a then none else some (m.departure host n a, a.2)

/-- What one more step adds to it. -/
def advance (host : Host σ α) (m : Machine σ α) (n : Nat) :
    Option Nat × Handle × Event α → Option (Option Nat × Handle × Event α)
  | (some k, q) => some (some k, q)
  | (none, q) =>
    if (m.occurrenceAt host n).bind Occurrence.freed? = some q.1 then
      if (m.occurrenceAt host n).any Occurrence.isWithdrawal then none else some (some n, q)
    else some (none, q)

theorem fate_of_le {n : Nat} {a : Nat × Handle × Event α} (hn : n ≤ a.1 + 1) :
    m.fate host n a = some (none, a.2) := by
  unfold fate isWithdrawn
  rw [departure_of_le hn]
  rfl

theorem deliveries_eq (n : Nat) :
    m.deliveries host n = (m.arrivals host n).filterMap (m.fate host n) := by
  unfold deliveries
  rw [← List.filterMap_eq_map, List.filterMap_filter]
  refine List.filterMap_congr fun a _ => ?_
  unfold fate
  cases m.isWithdrawn host n a <;> rfl

theorem fate_succ {n : Nat} {a : Nat × Handle × Event α} (ha : a.1 < n) :
    m.fate host (n + 1) a = (m.fate host n a).bind (m.advance host n) := by
  have hsucc : m.departure host (n + 1) a = _ := departure_succ ha
  unfold fate isWithdrawn
  rw [hsucc]
  cases m.departure host n a with
  | some k =>
    rw [Option.some_or, Option.any_some]
    split <;> rfl
  | none =>
    rw [Option.none_or]
    show _ = m.advance host n (none, a.2)
    unfold advance
    by_cases hfreed : (m.occurrenceAt host n).bind Occurrence.freed? = some a.2.1
    · rw [if_pos hfreed, Option.any_some]
      exact (if_pos hfreed).symm
    · rw [if_neg hfreed, Option.any_none]
      exact (if_neg hfreed).symm

/-- Each step moves the records of what was appended on by one, and adds those of what it appends. -/
theorem deliveries_succ (n : Nat) :
    m.deliveries host (n + 1) =
      (m.deliveries host n).filterMap (m.advance host n) ++
        (m.appendedAt host n).map fun q => (none, q) := by
  rw [deliveries_eq, deliveries_eq, arrivals_succ, List.filterMap_append, List.filterMap_filterMap,
    List.filterMap_map]
  have hold : ∀ a ∈ m.arrivals host n,
      m.fate host (n + 1) a = (m.fate host n a).bind (m.advance host n) :=
    fun a ha => fate_succ (lt_of_mem_arrivals ha)
  have hnew : ∀ q ∈ m.appendedAt host n, m.fate host (n + 1) (n, q) = some (none, q) :=
    fun q _ => fate_of_le (Nat.le_refl _)
  rw [List.filterMap_congr hold, ← List.filterMap_eq_map]
  exact congrArg _ (List.filterMap_congr hnew)

theorem advance_of_not_freed {n : Nat} {q : Handle × Event α}
    (h : (m.occurrenceAt host n).bind Occurrence.freed? ≠ some q.1) :
    m.advance host n (none, q) = some (none, q) := if_neg h

/-- Without an invocation, what is given back is withdrawn. -/
theorem advance_of_not_invoked {n : Nat} (hno : m.invokedAt host n = none) (q : Handle × Event α) :
    m.advance host n (none, q) =
      if (m.occurrenceAt host n).bind Occurrence.freed? = some q.1 then none else some (none, q) := by
  by_cases hfreed : (m.occurrenceAt host n).bind Occurrence.freed? = some q.1
  · rw [if_pos hfreed]
    show (if _ then if _ then none else some (some n, q) else some (none, q)) = _
    rw [if_pos hfreed, if_pos]
    unfold invokedAt at hno
    rcases Occurrence.bind_freed?_eq_some.mp hfreed with ho | ⟨e, ho⟩
    · rw [ho]
      rfl
    · rw [ho] at hno
      cases hno
  · rw [if_neg hfreed]
    exact advance_of_not_freed hfreed

/-- The one that is invoked was the first, and the others in the queue have other handles. -/
theorem queueAt_of_invoked (hm : m.system.reactor.WellFormed) {n : Nat} {h : Handle} {e : Event α}
    (ho : m.occurrenceAt host n = some (.invoked h e)) :
    m.queueAt host n = (h, e) :: m.queueAt host (n + 1) ∧ ∀ q ∈ m.queueAt host (n + 1), h ≠ q.1 := by
  have he := effect_at host hm n
  have hwf := wellFormed_reactorAt host hm n
  rw [ho] at he
  cases he with
  | invoked takes =>
    have heq : m.queueAt host n = (h, e) :: m.queueAt host (n + 1) := takes.queue_eq hwf
    have hnd : ((h, e) :: m.queueAt host (n + 1)).map Prod.fst |>.Nodup := heq ▸ Reactor.queue_nodup hwf
    refine ⟨heq, fun q hq hh => ?_⟩
    exact (List.nodup_cons.mp hnd).1 (List.mem_map.mpr ⟨q, hq, hh.symm⟩)

theorem advance_queueAt (hm : m.system.reactor.WellFormed) (n : Nat) :
    (m.queueAt host n).filterMap (fun q => m.advance host n (none, q)) =
      ((m.invokedAt host n).map fun q => (some n, q)).toList ++
        ((m.queueAt host n).filter fun q =>
          decide ((m.occurrenceAt host n).bind Occurrence.freed? ≠ some q.1)).map fun q => (none, q) := by
  cases hinv : m.invokedAt host n with
  | none =>
    rw [← List.filterMap_eq_map, List.filterMap_filter]
    refine List.filterMap_congr fun q _ => ?_
    rw [advance_of_not_invoked hinv]
    by_cases hfreed : (m.occurrenceAt host n).bind Occurrence.freed? = some q.1
    · simp [hfreed]
    · simp [hfreed]
  | some p =>
    obtain ⟨o, ho, hp⟩ := Option.bind_eq_some_iff.mp hinv
    cases o with
    | invoked h e =>
      cases hp
      obtain ⟨heq, hother⟩ := queueAt_of_invoked hm ho
      have hrest : ∀ q ∈ m.queueAt host (n + 1),
          (m.occurrenceAt host n).bind Occurrence.freed? ≠ some q.1 := by
        intro q hq hfreed
        rw [ho] at hfreed
        exact hother q hq (Option.some.inj hfreed)
      have hhead : m.advance host n (none, h, e) = some (some n, h, e) := by
        simp [advance, ho, Occurrence.freed?, Occurrence.isWithdrawal]
      have htail : (m.queueAt host (n + 1)).filterMap (fun q => m.advance host n (none, q)) =
          (m.queueAt host (n + 1)).map fun q => (none, q) := by
        rw [← List.filterMap_eq_map]
        exact List.filterMap_congr fun q hq => advance_of_not_freed (hrest q hq)
      rw [heq, List.filter_cons_of_neg (by simp [ho, Occurrence.freed?]),
        List.filter_eq_self.mpr fun q hq => decide_eq_true (hrest q hq)]
      simp only [List.filterMap_cons, hhead, htail]
      rfl
    | _ => cases hp

/-- A step moves the records of what was invoked, and of what stands in the queue, on by one. -/
theorem filterMap_advance (hm : m.system.reactor.WellFormed) (n : Nat) (l : List (Nat × Handle × Event α)) :
    (l.map (fun i : Nat × Handle × Event α => (some i.1, i.2)) ++
          (m.queueAt host n).map fun q => (none, q)).filterMap (m.advance host n) =
      (l ++ ((m.invokedAt host n).map (n, ·)).toList).map (fun i => (some i.1, i.2)) ++
        ((m.queueAt host n).filter fun q =>
          decide ((m.occurrenceAt host n).bind Occurrence.freed? ≠ some q.1)).map fun q => (none, q) := by
  have hdone : (l.map fun i : Nat × Handle × Event α => (some i.1, i.2)).filterMap (m.advance host n) =
      l.map fun i => (some i.1, i.2) := by
    rw [List.filterMap_map, ← List.filterMap_eq_map]
    rfl
  rw [List.filterMap_append, hdone, List.filterMap_map]
  show _ ++ (m.queueAt host n).filterMap (fun q => m.advance host n (none, q)) = _
  rw [advance_queueAt hm n, List.map_append, List.append_assoc]
  cases m.invokedAt host n <;> rfl

/-- **What was appended and not withdrawn was invoked, in this order, or stands in the queue.** The
induction is on the number of steps. -/
theorem conserved (hm : m.system.reactor.WellFormed) (hnil : m.system.reactor.ready = []) (n : Nat) :
    m.deliveries host n =
      (m.invocations host n).map (fun i => (some i.1, i.2)) ++
        (m.queueAt host n).map fun q => (none, q) := by
  induction n with
  | zero =>
    have hempty : m.queueAt host 0 = [] := by
      unfold queueAt Reactor.queue
      rw [show (m.reactorAt host 0).ready = [] from hnil]
      rfl
    rw [hempty]
    rfl
  | succ n ih =>
    rw [deliveries_succ, ih, filterMap_advance hm, (queueAt_succ host hm n).1, invocations_succ]
    simp only [List.map_append, List.append_assoc]

end Machine

end EventLoop
