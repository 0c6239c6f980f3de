import EventLoop.Console.Terminal
import EventLoop.Proofs.Machine.Occurrence
import EventLoop.Proofs.Reactor.Growth
import EventLoop.Proofs.Reactor.Wakeup

/-!
# What a console expects

A console has its input registered with the reactor, and its heartbeat. `Reactor.Expects` says so, also for the
moments at which the input was read and is not registered again.

* `Expects.collect`, `Expects.mem_ready_of_collect` — a tick selects the input if it can be read.
* `Expects.takes`, `Expects.input_of_takes`, `Expects.heartbeat_of_takes` — what is dispatched.
* `Expects.arms_input`, `Expects.arms_heartbeat` — what is registered.
-/

namespace EventLoop

/-- A notification that reads the input. -/
structure Notification.ReadsInput (number : Int32) (n : Notification Unit) : Prop where
  descriptor : n.descriptor = .fd number
  interest : n.interest = .read
  payload : n.payload = some (Terminal.inputCallback, ())

/-- A notification that shows that the loop is alive. -/
def Notification.IsHeartbeat (n : Notification Unit) : Prop :=
  n.payload = some (Terminal.heartbeatCallback, ())

namespace Events

theorem contains_read {e : Events} (h : (read &&& e).isEmpty = false) : e.contains .read = true := by
  have hbit : 1 &&& e.bits ≠ 0 := of_decide_eq_false h
  show decide (e.bits &&& 1 = 1) = true
  rw [decide_eq_true_eq, UInt32.and_comm, ← UInt32.toNat_inj]
  rw [Ne, ← UInt32.toNat_inj] at hbit
  rw [UInt32.toNat_and] at hbit ⊢
  have hparity : (UInt32.toNat 1) &&& e.bits.toNat = e.bits.toNat % 2 := Nat.one_and_eq_mod_two _
  have hzero : (0 : UInt32).toNat = 0 := rfl
  have hone : (1 : UInt32).toNat = 1 := rfl
  omega

theorem not_isEmpty_of_read {e : Events} (h : e.contains .read = true) : ¬e.isEmpty = true := by
  intro hempty
  have hzero : e.bits = 0 := of_decide_eq_true hempty
  have hone : e.bits &&& 1 = 1 := of_decide_eq_true h
  rw [hzero] at hone
  cases hone

end Events

namespace Reactor

/-- The reactor holds no more than a number of notifications, all of them heartbeats except for the one that
reads the input, if there is one at present. -/
structure Expects (number : Int32) (input : Option Handle) (most : Nat) (r : Reactor Unit) : Prop where
  wellFormed : r.WellFormed
  grows : r.Grows
  few : r.pending ≤ most
  reads : ∀ h, input = some h → ∃ n, r.notifications.get? h = some n ∧ n.ReadsInput number
  others : ∀ h n, r.notifications.get? h = some n → input ≠ some h → n.IsHeartbeat

namespace Expects

variable {number : Int32} {input : Option Handle} {most : Nat} {r r' : Reactor Unit}

/-- Before anything is registered. -/
theorem of_initial (h : r.Initial) : r.Expects number none 0 := by
  have hr := wellFormed_of_initial h
  refine ⟨hr, grows_of_initial h, ?_, nofun, fun k n hn _ => ?_⟩
  · rw [hr.pending_eq, held_of_initial h]
    exact Nat.le_refl 0
  · have hmem := hr.mem_held.mpr (Pool.contains_eq_true.mpr ⟨n, hn⟩)
    rw [held_of_initial h] at hmem
    cases hmem

theorem recount (x : r.Expects number input most) (c : Counters) :
    (r.recount c).Expects number input most where
  wellFormed := x.wellFormed.recount c
  grows := ⟨x.grows.groups, x.grows.notifications⟩
  few := x.few
  reads := x.reads
  others := x.others

theorem mono (x : r.Expects number input most) {more : Nat} (h : most ≤ more) :
    r.Expects number input more :=
  { x with few := Nat.le_trans x.few h }

/-! ## A tick -/

theorem payload_mark (r : Reactor Unit) (reported : List Conditions) (now : Instant)
    (n : Notification Unit) : (r.mark reported now n).payload = n.payload := by
  unfold mark
  split <;> rfl

theorem readsInput_mark {reported : List Conditions} {now : Instant} {n : Notification Unit}
    (hn : n.ReadsInput number) : (r.mark reported now n).ReadsInput number := by
  unfold mark
  split
  · exact ⟨hn.descriptor, hn.interest, hn.payload⟩
  · exact hn

theorem collect (x : r.Expects number input most) (reported : List Conditions) (now : Instant) :
    (r.collect reported now).Expects number input most := by
  have s := selects_of_collect x.wellFormed reported now
  refine ⟨s.wellFormed x.wellFormed, x.grows.collect reported now, ?_, ?_, ?_⟩
  · exact Nat.le_trans (Nat.le_of_eq s.notifications.activeCount) x.few
  · intro h hh
    obtain ⟨n, hn, hreads⟩ := x.reads h hh
    exact ⟨_, by rw [s.notifications.get?, hn]; rfl, readsInput_mark hreads⟩
  · intro h n' hn' hne
    rw [s.notifications.get?] at hn'
    obtain ⟨n, hn, rfl⟩ := Option.map_eq_some_iff.mp hn'
    exact (payload_mark r reported now n).trans (x.others h n hn hne)

/-- **A tick selects the input when the wait reports that it can be read.** The wait is asked about it. -/
theorem mem_ready_of_collect {h : Handle} (x : r.Expects number (some h) most)
    {reported : List Conditions} (hread : ∀ (k : Nat) e, r.pollSet[k]? = some e → e.number = number →
      e.asked.meets .input = true → ∃ c, reported[k]? = some c ∧ c.fired.contains .read = true)
    (now : Instant) : h ∈ (r.collect reported now).ready := by
  have hr := x.wellFormed
  obtain ⟨n, hn, hreads⟩ := x.reads h rfl
  rw [(selects_of_collect hr reported now).mem_ready hr]
  cases hplace : n.place with
  | spare => exact absurd hplace (hr.sound h n hn).place
  | ready => exact Or.inl ((hr.mem_ready h).mpr ⟨n, hn, hplace⟩)
  | group g =>
    refine Or.inr ?_
    obtain ⟨group, hg, hdesc⟩ := hr.group_of_place h n g hn hplace
    rw [hreads.descriptor] at hdesc
    have hasks : (r.interestOf g).contains .read = true := by
      refine Events.contains_read ?_
      rw [interestOf_isEmpty, List.all_eq_false]
      refine ⟨n, (mem_members hr).mpr ⟨h, hn, hplace⟩, ?_⟩
      rw [hreads.interest]
      decide
    have hsome : ¬(r.interestOf g).isEmpty = true := Events.not_isEmpty_of_read hasks
    obtain ⟨k, hk, -, hseen⟩ := readiness_of_polled hr reported hg hdesc hsome
    obtain ⟨c, hc, hfired⟩ := hread k _ hk rfl ((Conditions.asksFor_ofEvents _).input.trans hasks)
    rw [selects_of_get? hn, isSelected, hplace, maskOf_of_met]
    · rfl
    · rw [hreads.descriptor, ← hdesc, hseen, hc, Option.getD_some, hreads.interest]
      exact Events.inter_isEmpty_of_contains (by simp) hfired (by decide)

/-! ## Dispatch -/

/-- What is left after a dispatch: if the input was dispatched it is expected no more. -/
theorem takes (x : r.Expects number input (most + 1)) {h : Handle} {e : Event Unit}
    (t : r.Takes h e r') (hgrows : r'.Grows) {left : Option Handle}
    (hleft : ∀ k, left = some k ↔ input = some k ∧ k ≠ h) : r'.Expects number left most := by
  have hdrops := t.notifications
  refine ⟨t.wellFormed x.wellFormed, hgrows, ?_, ?_, ?_⟩
  · have hcount := hdrops.activeCount
    have hfew := x.few
    unfold pending at hfew ⊢
    omega
  · intro k hk
    obtain ⟨hinput, hne⟩ := (hleft k).mp hk
    obtain ⟨n, hn, hreads⟩ := x.reads k hinput
    exact ⟨n, by rw [hdrops.get?, if_neg hne, hn], hreads⟩
  · intro k n hn hother
    rw [hdrops.get?] at hn
    split at hn
    · cases hn
    · next hne => exact x.others k n hn fun hinput => hother ((hleft k).mpr ⟨hinput, hne⟩)

/-- The input is dispatched as what it was registered as. -/
theorem input_of_takes {h : Handle} (x : r.Expects number (some h) most) {e : Event Unit}
    (t : r.Takes h e r') : e.callback = Terminal.inputCallback ∧ e.descriptor = .fd number := by
  obtain ⟨n, hn, -, htells⟩ := t.tells
  obtain ⟨n', hn', hreads⟩ := x.reads h rfl
  rw [hn] at hn'
  cases hn'
  have hpayload := htells.payload.symm.trans hreads.payload
  rw [Option.some.injEq, Prod.mk.injEq] at hpayload
  exact ⟨hpayload.1, htells.descriptor.trans hreads.descriptor⟩

/-- Whatever else is dispatched is a heartbeat. -/
theorem heartbeat_of_takes (x : r.Expects number input most) {h : Handle} {e : Event Unit}
    (t : r.Takes h e r') (hne : input ≠ some h) : e.callback = Terminal.heartbeatCallback := by
  obtain ⟨n, hn, -, htells⟩ := t.tells
  have hpayload := htells.payload.symm.trans (x.others h n hn hne)
  rw [Option.some.injEq, Prod.mk.injEq] at hpayload
  exact hpayload.1

/-! ## Registration -/

variable {request : Request Unit} {due : Option Instant} {h g : Handle}

theorem few_of_arms (x : r.Expects number input most) (a : r.Arms request due h g r') :
    r'.pending ≤ most + 1 := by
  have hcount := a.notifications.activeCount
  have hfew := x.few
  unfold pending at hfew ⊢
  omega

/-- The input is registered when it was not. -/
theorem arms_input (x : r.Expects number none most) (a : r.Arms request due h g r')
    (hgrows : r'.Grows) (hdesc : request.descriptor = .fd number)
    (hcallback : request.callback = Terminal.inputCallback) (hinterest : request.interest = .read) :
    r'.Expects number (some h) (most + 1) := by
  refine ⟨a.wellFormed x.wellFormed, hgrows, x.few_of_arms a, ?_, ?_⟩
  · rintro k ⟨⟩
    refine ⟨_, by rw [a.notifications.get?, if_pos rfl], hdesc, ?_, ?_⟩
    · show request.interest &&& .waitable = .read
      rw [hinterest]
      rfl
    · show some (request.callback, request.arg) = _
      rw [hcallback]
  · intro k n hn hne
    rw [a.notifications.get?, if_neg fun hk => hne (congrArg some hk.symm)] at hn
    exact x.others k n hn nofun

/-- A heartbeat is registered beside all that was. -/
theorem arms_heartbeat (x : r.Expects number input most) (a : r.Arms request due h g r')
    (hgrows : r'.Grows) (hcallback : request.callback = Terminal.heartbeatCallback) :
    r'.Expects number input (most + 1) := by
  refine ⟨a.wellFormed x.wellFormed, hgrows, x.few_of_arms a, ?_, ?_⟩
  · intro k hk
    obtain ⟨n, hn, hreads⟩ := x.reads k hk
    have hne : k ≠ h := by
      rintro rfl
      rw [a.notifications.absent] at hn
      cases hn
    exact ⟨n, by rw [a.notifications.get?, if_neg hne, hn], hreads⟩
  · intro k n hn hne
    rw [a.notifications.get?] at hn
    split at hn
    · cases hn
      show some (request.callback, request.arg) = _
      rw [hcallback]
    · exact x.others k n hn hne

end Expects

end Reactor

end EventLoop
