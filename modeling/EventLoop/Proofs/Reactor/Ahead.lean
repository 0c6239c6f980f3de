import EventLoop.Proofs.Machine.Occurrence
import EventLoop.Proofs.Pool.Mapped
import EventLoop.Proofs.Time.Nanos

/-!
# Reactors in later time

A reactor in which everything is due a span later than in another one does the same a span later, as long as
the sums stop short of the latest instant (`Instant.Fits`).

* `Instant.le_ahead`, `Instant.since_ahead`, `Instant.min_ahead` — instants compare as before.
* `Reactor.arm_ahead`, `Reactor.cancel_ahead`, `Reactor.collect_ahead`, `Reactor.takeReady_ahead` — every
  operation, on a reactor in later time.
* `Reactor.Effect.fits` — the sums keep stopping short.
-/

namespace EventLoop

variable {α : Type}

/-! ## Instants -/

namespace Instant

/-- The instant a span later. -/
def ahead (c : Span) (t : Instant) : Instant := t + c

/-- Is there an instant a span later? -/
def Fits (c : Span) (t : Instant) : Prop := t.toNanos + c.toNanos ≤ latest.toNanos

variable {c : Span}

theorem toNanos_ahead_of_fits {t : Instant} (h : t.Fits c) :
    (t.ahead c).toNanos = t.toNanos + c.toNanos := by
  rw [ahead, toNanos_add]
  exact Nat.min_eq_left h

/-- A delay may be added before or after. -/
theorem ahead_add (t : Instant) (d : Span) : t.ahead c + d = (t + d).ahead c := by
  refine toNanos_inj.mp ?_
  unfold ahead
  simp only [toNanos_add]
  omega

theorem le_ahead {t u : Instant} (ht : t.Fits c) (hu : u.Fits c) :
    (t.ahead c).le (u.ahead c) = t.le u := by
  rw [Bool.eq_iff_iff, le_iff_toNanos, le_iff_toNanos, toNanos_ahead_of_fits ht,
    toNanos_ahead_of_fits hu]
  omega

theorem toNanos_min (t u : Instant) : (t.min u).toNanos = Min.min t.toNanos u.toNanos := by
  unfold min
  split
  · next h => exact (Nat.min_eq_left (le_iff_toNanos.mp h)).symm
  · next h =>
    rw [le_iff_toNanos] at h
    exact (Nat.min_eq_right (by omega)).symm

theorem min_ahead (t u : Instant) : (t.ahead c).min (u.ahead c) = (t.min u).ahead c := by
  refine toNanos_inj.mp ?_
  unfold ahead
  simp only [toNanos_add, toNanos_min]
  omega

/-- What remains to a deadline is the same a span later. -/
theorem since_ahead {u : Instant} (hu : u.Fits c) (t : Instant) :
    (u.ahead c).since (t.ahead c) = u.since t := by
  refine Span.toNanos_inj.mp ?_
  have hlatest := t.toNanos_le_latest
  rw [toNanos_since, toNanos_since, toNanos_ahead_of_fits hu, ahead, toNanos_add]
  unfold Fits at hu
  omega

end Instant

/-! ## Notifications -/

namespace Notification

/-- The notification, due a span later. -/
def ahead (c : Span) (n : Notification α) : Notification α := { n with due := n.due.map (Instant.ahead c) }

/-- Is there an instant a span later than the one at which it is due? -/
def Fits (c : Span) (n : Notification α) : Prop := ∀ u, n.due = some u → u.Fits c

variable {c : Span}

theorem fresh_ahead : (Poolable.fresh : Notification α).ahead c = Poolable.fresh := rfl

theorem recycle_ahead (n : Notification α) :
    Poolable.recycle (n.ahead c) = (Poolable.recycle n : Notification α).ahead c := rfl

end Notification

/-! ## Reactors -/

namespace Reactor

/-- The reactor in which everything is due a span later. -/
def ahead (c : Span) (r : Reactor α) : Reactor α :=
  { r with notifications := r.notifications.map (Notification.ahead c) }

/-- Everything may be due a span later. -/
def Fits (c : Span) (r : Reactor α) : Prop := ∀ h n, r.notifications.get? h = some n → n.Fits c

variable (c : Span) (r : Reactor α)

@[simp] theorem ahead_notifications :
    (r.ahead c).notifications = r.notifications.map (Notification.ahead c) := rfl

@[simp] theorem isPending_ahead (h : Handle) : (r.ahead c).isPending h = r.isPending h :=
  Pool.contains_map _ _ h

@[simp] theorem pending_ahead : (r.ahead c).pending = r.pending := Pool.activeCount_map _ _

@[simp] theorem status_ahead : (r.ahead c).status = r.status := by
  unfold status
  rw [pending_ahead, ahead_notifications, Pool.capacity_map, Pool.spareCount_map]
  rfl

theorem armedWith_ahead (callback : Callback) : (r.ahead c).armedWith callback = r.armedWith callback := by
  funext h
  unfold armedWith
  rw [ahead_notifications, Pool.get?_map]
  cases r.notifications.get? h <;> rfl

theorem lookup_ahead (d : Descriptor) (callback : Callback) :
    (r.ahead c).lookup d callback = r.lookup d callback := by
  unfold lookup
  rw [armedWith_ahead]
  rfl

/-! ## Registration and withdrawal -/

theorem attach_ahead (memory : Memory) (g : Handle) (request : Request α) (due : Option Instant) :
    (r.ahead c).attach memory g request (due.map (Instant.ahead c)) =
      (r.attach memory g request due).map fun a => (a.1, a.2.ahead c) := by
  unfold attach
  rw [ahead_notifications, Pool.acquire_map Notification.fresh_ahead,
    show (r.ahead c).groups = r.groups from rfl]
  cases r.groups.get? g with
  | none => rfl
  | some group =>
    dsimp only
    split
    · rcases r.notifications.acquire memory with e | ⟨h, notifications⟩
      · rfl
      · simp only [Except.map, ahead]
        congr 3
        refine Pool.modify_map _ (fun n => ?_) notifications h
        rfl
    · rfl

theorem arm_ahead (memory : Memory) (request : Request α) (due : Option Instant) :
    (r.ahead c).arm memory request (due.map (Instant.ahead c)) =
      ((r.arm memory request due).1, (r.arm memory request due).2.ahead c) := by
  unfold arm
  rw [show (r.ahead c).findGroup request.descriptor = r.findGroup request.descriptor from rfl]
  cases r.findGroup request.descriptor with
  | some g =>
    dsimp only
    rw [attach_ahead]
    rcases r.attach memory g request due with e | ⟨h, r'⟩
    · rfl
    · rfl
  | none =>
    dsimp only
    rw [show (r.ahead c).active = r.active from rfl, show (r.ahead c).groups = r.groups from rfl]
    split
    · rcases r.groups.acquire memory with e | ⟨g, groups⟩
      · rfl
      · dsimp only
        have hopened := attach_ahead c { r with
          groups := groups.modify g fun group => { group with descriptor := request.descriptor } }
          memory g request due
        unfold ahead at hopened ⊢
        dsimp only at hopened ⊢
        rw [hopened]
        rcases attach memory _ g request due with e | ⟨h, r'⟩
        · rfl
        · rfl
    · rfl

theorem detach_ahead (g h : Handle) : (r.ahead c).detach g h = (r.detach g h).ahead c := by
  unfold detach
  rw [show (r.ahead c).groups = r.groups from rfl]
  cases r.groups.get? g with
  | none => rfl
  | some group =>
    dsimp only
    split
    · rfl
    · rfl

theorem cancel_ahead (h : Handle) :
    (r.ahead c).cancel h = ((r.cancel h).1, (r.cancel h).2.ahead c) := by
  have hdiscard : ∀ p : Pool (Notification α),
      (p.map (Notification.ahead c)).discard h = (p.discard h).map (Notification.ahead c) :=
    fun p => Pool.discard_map Notification.recycle_ahead p h
  unfold cancel
  rw [ahead_notifications, Pool.get?_map]
  cases r.notifications.get? h with
  | none => rfl
  | some n =>
    simp only [Option.map_some]
    rw [show (n.ahead c).place = n.place from rfl]
    cases n.place with
    | spare => rfl
    | ready =>
      simp only [hdiscard]
      rfl
    | group g =>
      simp only [detach_ahead, ahead_notifications, hdiscard]
      rfl

/-! ## Before the wait -/

theorem members_ahead (g : Handle) :
    (r.ahead c).members g = (r.members g).map (Notification.ahead c) := by
  unfold members
  rw [show (r.ahead c).groups = r.groups from rfl]
  cases r.groups.get? g with
  | none => rfl
  | some group =>
    dsimp only
    rw [List.map_filterMap, ahead_notifications]
    exact List.filterMap_congr fun h _ => Pool.get?_map _ _ h

theorem interestOf_ahead (g : Handle) : (r.ahead c).interestOf g = r.interestOf g := by
  unfold interestOf
  rw [members_ahead, List.foldl_map]
  rfl

theorem sooner_ahead (a b : Option Instant) :
    sooner (a.map (Instant.ahead c)) (b.map (Instant.ahead c)) = (sooner a b).map (Instant.ahead c) := by
  cases a with
  | none => rfl
  | some t =>
    cases b with
    | none => rfl
    | some u => exact congrArg some (Instant.min_ahead t u)

theorem foldl_sooner_ahead {β : Type} (dueOf : β → Option Instant) (l : List β) (due : Option Instant) :
    l.foldl (fun due x => sooner due ((dueOf x).map (Instant.ahead c))) (due.map (Instant.ahead c)) =
      (l.foldl (fun due x => sooner due (dueOf x)) due).map (Instant.ahead c) := by
  induction l generalizing due with
  | nil => rfl
  | cons x l ih => rw [List.foldl_cons, List.foldl_cons, sooner_ahead, ih]

theorem dueOf_ahead (g : Handle) : (r.ahead c).dueOf g = (r.dueOf g).map (Instant.ahead c) := by
  unfold dueOf
  rw [members_ahead, List.foldl_map]
  exact foldl_sooner_ahead c Notification.due (r.members g) none

theorem earliest_ahead : (r.ahead c).earliest = r.earliest.map (Instant.ahead c) := by
  unfold earliest
  simp only [dueOf_ahead]
  exact foldl_sooner_ahead c r.dueOf r.active none

theorem entryOf_ahead (g : Handle) : (r.ahead c).entryOf g = r.entryOf g := by
  unfold entryOf
  rw [interestOf_ahead]
  rfl

theorem pollSet_ahead : (r.ahead c).pollSet = r.pollSet :=
  List.filterMap_congr fun g _ => r.entryOf_ahead c g

/-! ## After the wait -/

theorem firedOf_ahead (gs : List Handle) (reported : List Conditions) :
    (r.ahead c).firedOf gs reported = r.firedOf gs reported := by
  induction gs generalizing reported with
  | nil => rfl
  | cons g gs ih =>
    unfold firedOf
    rw [entryOf_ahead]
    simp only [ih]

variable {c r} {now : Instant}

theorem trigger_ahead (hnow : now.Fits c) {n : Notification α} (hn : n.Fits c) (fired : Events) :
    trigger fired (now.ahead c) (n.ahead c) = trigger fired now n := by
  have hdue : (n.due.map (Instant.ahead c)).any (·.le (now.ahead c)) = n.due.any (·.le now) := by
    cases hu : n.due with
    | none => rfl
    | some u => exact Instant.le_ahead (hn u hu) hnow
  unfold trigger Notification.ahead
  rw [hdue]

/-- Marking a notification changes nothing about when it is due. -/
theorem fits_mark {p : Pool (Notification α)} (hp : ∀ h n, p.get? h = some n → n.Fits c) (h : Handle)
    (mask : Events) : ∀ k n,
      (p.modify h fun v => { v with triggered := mask, place := .ready }).get? k = some n → n.Fits c := by
  intro k n hn
  rw [Pool.get?_modify] at hn
  split at hn
  · obtain ⟨v, hv, rfl⟩ := Option.map_eq_some_iff.mp hn
    exact hp h v hv
  · exact hp k n hn

theorem fits_sift (fired : Events) (l : List Handle) {p : Pool (Notification α)}
    (hp : ∀ h n, p.get? h = some n → n.Fits c) :
    ∀ h n, (sift fired now l p).2.2.get? h = some n → n.Fits c := by
  induction l generalizing p with
  | nil => exact hp
  | cons h rest ih =>
    unfold sift
    split
    · exact ih hp
    · dsimp only
      split
      · exact ih hp
      · exact ih (fits_mark hp h _)

/-- The induction is on the members, each of which may be marked. -/
theorem sift_ahead (hnow : now.Fits c) (fired : Events) (l : List Handle) {p : Pool (Notification α)}
    (hp : ∀ h n, p.get? h = some n → n.Fits c) :
    sift fired (now.ahead c) l (p.map (Notification.ahead c)) =
      ((sift fired now l p).1, (sift fired now l p).2.1,
        (sift fired now l p).2.2.map (Notification.ahead c)) := by
  induction l generalizing p with
  | nil => rfl
  | cons h rest ih =>
    unfold sift
    rw [Pool.get?_map]
    cases hn : p.get? h with
    | none => exact ih hp
    | some n =>
      simp only [Option.map_some]
      rw [trigger_ahead hnow (hp h n hn)]
      split
      · rw [ih hp]
      · have hmark : (p.map (Notification.ahead c)).modify h
              (fun v => { v with triggered := trigger fired now n, place := .ready }) =
            (p.modify h fun v => { v with triggered := trigger fired now n, place := .ready }).map
              (Notification.ahead c) := by
          refine Pool.modify_map _ (fun v => ?_) p h
          rfl
        rw [hmark, ih (fits_mark hp h _)]

theorem selectIn_ahead (hnow : now.Fits c) (hr : r.Fits c) (g : Handle) (fired : Events) :
    selectIn (now.ahead c) (r.ahead c) g fired = (selectIn now r g fired).ahead c := by
  unfold selectIn
  rw [show (r.ahead c).groups = r.groups from rfl]
  cases r.groups.get? g with
  | none => rfl
  | some group =>
    dsimp only
    rw [ahead_notifications, sift_ahead hnow fired group.pending hr]
    rfl

theorem fits_selectIn (hr : r.Fits c) (g : Handle) (fired : Events) : (selectIn now r g fired).Fits c := by
  unfold selectIn
  split
  · exact hr
  · exact fits_sift fired _ hr

theorem foldl_selectIn_ahead (hnow : now.Fits c) (hr : r.Fits c) (fired : List (Handle × Events)) :
    fired.foldl (fun s p => selectIn (now.ahead c) s p.1 p.2) (r.ahead c) =
      (fired.foldl (fun s p => selectIn now s p.1 p.2) r).ahead c := by
  induction fired generalizing r with
  | nil => rfl
  | cons p fired ih =>
    rw [List.foldl_cons, List.foldl_cons, selectIn_ahead hnow hr, ih (fits_selectIn hr p.1 p.2)]

/-- **A selection is the same a span later.** -/
theorem collect_ahead (hnow : now.Fits c) (hr : r.Fits c) (reported : List Conditions) :
    (r.ahead c).collect reported (now.ahead c) = (r.collect reported now).ahead c := by
  unfold collect
  rw [show (r.ahead c).active = r.active from rfl, firedOf_ahead, foldl_selectIn_ahead hnow hr]
  rfl

theorem takeReady_ahead (c : Span) (r : Reactor α) :
    (r.ahead c).takeReady = r.takeReady.map fun p => (p.1, p.2.ahead c) := by
  unfold takeReady
  rw [show (r.ahead c).ready = r.ready from rfl]
  cases r.ready with
  | nil => rfl
  | cons h rest =>
    dsimp only
    rw [ahead_notifications, Pool.release_map Notification.recycle_ahead]
    rcases r.notifications.release h with _ | ⟨n, notifications⟩
    · rfl
    · simp only [Option.map_some]
      rw [show (n.ahead c).payload = n.payload from rfl]
      rcases n.payload with _ | ⟨callback, arg⟩
      · rfl
      · rfl

/-! ## What is due may be due later -/

namespace Effect

variable {o : Option (Occurrence α)} {r r' : Reactor α}

/-- Only a registration brings in a deadline. -/
theorem fits (he : Effect o r r') (hr : r.Fits c)
    (hdue : ∀ h request due, o = some (.registered h request due) → ∀ u, due = some u → u.Fits c) :
    r'.Fits c := by
  intro h n hn
  cases he with
  | none rests =>
    rw [rests.notifications] at hn
    exact hr h n hn
  | registered arms =>
    rw [arms.notifications.get?] at hn
    split at hn
    · cases hn
      exact fun u hu => hdue _ _ _ rfl u hu
    · exact hr h n hn
  | cancelled withdraws =>
    rw [withdraws.notifications.get?] at hn
    split at hn
    · cases hn
    · exact hr h n hn
  | selected selects =>
    rw [selects.notifications.get?] at hn
    obtain ⟨v, hv, rfl⟩ := Option.map_eq_some_iff.mp hn
    have hv' := hr h v hv
    unfold mark
    split
    · exact hv'
    · exact hv'
  | invoked takes =>
    rw [takes.notifications.get?] at hn
    split at hn
    · cases hn
    · exact hr h n hn

end Effect

/-- A new reactor holds no deadline, not even in what is spare. -/
theorem ahead_of_initial {r : Reactor α} (h : r.Initial) (c : Span) : r.ahead c = r := by
  cases h with
  | empty floor => simp [ahead, empty, Pool.map, Pool.empty]
  | ofSettings _ _ built =>
    obtain ⟨groups, notifications, -, hn, rfl⟩ := ofSettings_cases built
    unfold Pool.ofCapacity at hn
    split at hn
    · cases hn
      simp [ahead, Pool.map, Slot.map, Pool.freshSlot, Notification.fresh_ahead]
    · cases hn

theorem fits_of_initial {r : Reactor α} (h : r.Initial) (c : Span) : r.Fits c := by
  intro k n hn
  have hpending : r.isPending k = true := Pool.contains_eq_true.mpr ⟨n, hn⟩
  rw [← (wellFormed_of_initial h).mem_held, held_of_initial h] at hpending
  cases hpending

end Reactor

end EventLoop
