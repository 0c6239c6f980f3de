import EventLoop.Proofs.Pool.Handles
import EventLoop.Reactor.Tick
import Mathlib.Data.List.Nodup

/-!
# Who holds a notification

A reactor records in several places where a notification stands: in the notification itself, in the list
of its group, in the list of active groups, in the ready queue, and in the flag of its slot.
`Reactor.WellFormed` says that these records agree.

* `WellFormed.count_held` — a notification in use stands in exactly one place, a stale handle in none.
* `WellFormed.accounted` — so every notification is accounted for, and spare ones have nothing left of
  their last use.
* `wellFormed_of_initial` — a reactor starts well-formed.
-/

namespace EventLoop

variable {α : Type}

/-- What holds of every notification in use. -/
structure Notification.Sound (n : Notification α) : Prop where
  /-- There is a callback to invoke. -/
  payload : n.payload.isSome = true
  /-- It waits for nothing that a wait cannot ask for. -/
  interest : n.interest &&& .waitable = n.interest
  place : n.place ≠ .spare
  waiting : n.place ≠ .ready → n.triggered = .none
  /-- It was selected because it was due, or for a part of its interest. -/
  selected : n.place = .ready →
    n.triggered = .timeout ∧ n.due.isSome = true ∨
      n.triggered ≠ .none ∧ n.triggered &&& n.interest = n.triggered

/-- Nothing is left of the last use. -/
structure Notification.IsBlank (n : Notification α) : Prop where
  payload : n.payload = none
  due : n.due = none
  interest : n.interest = .none
  triggered : n.triggered = .none
  place : n.place = .spare

theorem Notification.isBlank_of_isIdle {n : Notification α} (h : Pool.IsIdle n) : n.IsBlank := by
  rcases h with rfl | ⟨m, rfl⟩
  · exact ⟨rfl, rfl, rfl, rfl, rfl⟩
  · exact ⟨rfl, rfl, rfl, rfl, rfl⟩

theorem Group.pending_of_isIdle {g : Group} (h : Pool.IsIdle g) : g.pending = [] := by
  rcases h with rfl | ⟨k, rfl⟩
  · rfl
  · rfl

namespace Reactor

/-! ## The records agree -/

/-- The notifications that wait in a group, in the order of their registration. -/
def pendingOf (r : Reactor α) (g : Handle) : List Handle := ((r.groups.get? g).map Group.pending).getD []

/-- Every place where a notification can stand, group after group and then the ready queue. -/
def held (r : Reactor α) : List Handle := r.active.flatMap r.pendingOf ++ r.ready

/-- The records of a reactor agree. -/
structure WellFormed (r : Reactor α) : Prop where
  groups : r.groups.WellFormed
  notifications : r.notifications.WellFormed
  /-- The active groups are the groups in use, each once. -/
  active_nodup : r.active.Nodup
  mem_active : ∀ g, g ∈ r.active ↔ r.groups.contains g = true
  pending_ne_nil : ∀ g group, r.groups.get? g = some group → group.pending ≠ []
  pending_nodup : ∀ g group, r.groups.get? g = some group → group.pending.Nodup
  /-- A descriptor has one group at most. -/
  descriptor_inj : ∀ g k a b, r.groups.get? g = some a → r.groups.get? k = some b →
    a.descriptor = b.descriptor → g = k
  /-- A group holds the notifications that say so. -/
  mem_pending : ∀ g group h, r.groups.get? g = some group →
    (h ∈ group.pending ↔ ∃ n, r.notifications.get? h = some n ∧ n.place = .group g)
  /-- Their group is in use and has their descriptor. -/
  group_of_place : ∀ h n g, r.notifications.get? h = some n → n.place = .group g →
    ∃ group, r.groups.get? g = some group ∧ group.descriptor = n.descriptor
  ready_nodup : r.ready.Nodup
  /-- The ready queue holds the notifications that say so. -/
  mem_ready : ∀ h, h ∈ r.ready ↔ ∃ n, r.notifications.get? h = some n ∧ n.place = .ready
  sound : ∀ h n, r.notifications.get? h = some n → n.Sound

/-! ## Every notification in one place -/

theorem pendingOf_of_get? {r : Reactor α} {g : Handle} {group : Group}
    (hg : r.groups.get? g = some group) : r.pendingOf g = group.pending := by
  simp [pendingOf, hg]

theorem pendingOf_of_none {r : Reactor α} {g : Handle} (hg : r.groups.get? g = none) :
    r.pendingOf g = [] := by
  simp [pendingOf, hg]

namespace WellFormed

variable {r : Reactor α}

theorem exists_group (hr : r.WellFormed) {g : Handle} (hg : g ∈ r.active) :
    ∃ group, r.groups.get? g = some group :=
  Pool.contains_eq_true.mp ((hr.mem_active g).mp hg)

theorem mem_active_of_get? (hr : r.WellFormed) {g : Handle} {group : Group}
    (hg : r.groups.get? g = some group) : g ∈ r.active :=
  (hr.mem_active g).mpr (Pool.contains_eq_true.mpr ⟨group, hg⟩)

theorem mem_pendingOf (hr : r.WellFormed) {g h : Handle} :
    h ∈ r.pendingOf g ↔ ∃ n, r.notifications.get? h = some n ∧ n.place = .group g := by
  cases hg : r.groups.get? g with
  | some group => rw [pendingOf_of_get? hg, hr.mem_pending g group h hg]
  | none =>
    rw [pendingOf_of_none hg]
    constructor
    · intro hm
      cases hm
    · rintro ⟨n, hn, hp⟩
      obtain ⟨group, hgroup, -⟩ := hr.group_of_place h n g hn hp
      rw [hg] at hgroup
      cases hgroup

theorem pendingOf_nodup (hr : r.WellFormed) (g : Handle) : (r.pendingOf g).Nodup := by
  cases hg : r.groups.get? g with
  | some group => rw [pendingOf_of_get? hg]; exact hr.pending_nodup g group hg
  | none => rw [pendingOf_of_none hg]; exact List.nodup_nil

/-- A notification waits in one group at most. -/
theorem eq_of_mem_pendingOf (hr : r.WellFormed) {g k h : Handle} (hg : h ∈ r.pendingOf g)
    (hk : h ∈ r.pendingOf k) : g = k := by
  obtain ⟨n, hn, hp⟩ := hr.mem_pendingOf.mp hg
  obtain ⟨m, hm, hq⟩ := hr.mem_pendingOf.mp hk
  rw [hn] at hm
  cases hm
  rw [hp] at hq
  cases hq
  rfl

/-- A notification that was selected waits no more. -/
theorem not_mem_ready (hr : r.WellFormed) {g h : Handle} (hg : h ∈ r.pendingOf g) : h ∉ r.ready := by
  intro hm
  obtain ⟨n, hn, hp⟩ := hr.mem_pendingOf.mp hg
  obtain ⟨m, hm, hq⟩ := (hr.mem_ready h).mp hm
  rw [hn] at hm
  cases hm
  rw [hp] at hq
  cases hq

theorem held_nodup (hr : r.WellFormed) : r.held.Nodup := by
  refine List.nodup_append.mpr ⟨?_, hr.ready_nodup, ?_⟩
  · rw [List.nodup_flatMap]
    refine ⟨fun g _ => hr.pendingOf_nodup g, hr.active_nodup.imp ?_⟩
    intro g k hgk h hg hk
    exact hgk (hr.eq_of_mem_pendingOf hg hk)
  · -- what waits does not stand in the queue
    rintro h hh k hk rfl
    obtain ⟨g, -, hg⟩ := List.mem_flatMap.mp hh
    exact hr.not_mem_ready hg hk

theorem mem_held (hr : r.WellFormed) {h : Handle} : h ∈ r.held ↔ r.isPending h = true := by
  rw [isPending, Pool.contains_eq_true]
  unfold held
  rw [List.mem_append, List.mem_flatMap]
  constructor
  · rintro (⟨g, -, hg⟩ | hq)
    · obtain ⟨n, hn, -⟩ := hr.mem_pendingOf.mp hg
      exact ⟨n, hn⟩
    · obtain ⟨n, hn, -⟩ := (hr.mem_ready h).mp hq
      exact ⟨n, hn⟩
  · rintro ⟨n, hn⟩
    cases hp : n.place with
    | spare => exact absurd hp (hr.sound h n hn).place
    | ready => exact Or.inr ((hr.mem_ready h).mpr ⟨n, hn, hp⟩)
    | group g =>
      obtain ⟨group, hg, -⟩ := hr.group_of_place h n g hn hp
      exact Or.inl ⟨g, hr.mem_active_of_get? hg, hr.mem_pendingOf.mpr ⟨n, hn, hp⟩⟩

/-- **A notification in use stands in exactly one place, a stale handle in none.** -/
theorem count_held (hr : r.WellFormed) (h : Handle) :
    r.held.count h = if r.isPending h = true then 1 else 0 := by
  split
  · next hp => exact List.count_eq_one_of_mem hr.held_nodup (hr.mem_held.mpr hp)
  · next hp => exact List.count_eq_zero.mpr fun hm => hp (hr.mem_held.mp hm)

/-- As many notifications are still to be dispatched as stand somewhere. -/
theorem pending_eq (hr : r.WellFormed) : r.pending = r.held.length :=
  hr.notifications.activeCount_eq_length hr.held_nodup fun _ => hr.mem_held

/-- As many groups are in use as are active. -/
theorem activeCount_groups (hr : r.WellFormed) : r.groups.activeCount = r.active.length :=
  hr.groups.activeCount_eq_length hr.active_nodup hr.mem_active

/-- A spare notification has nothing left of its last use. -/
theorem isBlank_of_inactive (hr : r.WellFormed) {i : Nat} {s : Slot (Notification α)}
    (hs : r.notifications.slots[i]? = some s) (ha : s.active = false) : s.value.IsBlank :=
  Notification.isBlank_of_isIdle (hr.notifications.idle i s hs ha)

/-- A spare group holds nothing. -/
theorem pending_of_inactive (hr : r.WellFormed) {i : Nat} {s : Slot Group}
    (hs : r.groups.slots[i]? = some s) (ha : s.active = false) : s.value.pending = [] :=
  Group.pending_of_isIdle (hr.groups.idle i s hs ha)

end WellFormed

/-- Every notification is accounted for: those in use stand in one place each, and of the others nothing is
left. -/
structure Accounted (r : Reactor α) : Prop where
  wellFormed : r.WellFormed
  /-- One place for a notification in use, none for a stale handle. -/
  count_held : ∀ h, r.held.count h = if r.isPending h = true then 1 else 0
  pending_eq : r.pending = r.held.length
  activeCount_groups : r.groups.activeCount = r.active.length
  blank : ∀ (i : Nat) s, r.notifications.slots[i]? = some s → s.active = false → s.value.IsBlank
  vacant : ∀ (i : Nat) s, r.groups.slots[i]? = some s → s.active = false → s.value.pending = []

/-- When the records agree, nothing is lost and nothing is left behind. -/
theorem WellFormed.accounted {r : Reactor α} (hr : r.WellFormed) : r.Accounted where
  wellFormed := hr
  count_held := hr.count_held
  pending_eq := hr.pending_eq
  activeCount_groups := hr.activeCount_groups
  blank _ _ hs ha := hr.isBlank_of_inactive hs ha
  vacant _ _ hs ha := hr.pending_of_inactive hs ha

/-! ## Reactors to start from -/

/-- A reactor without notifications, with empty pools or with pools of at most 2 ^ 32 spare slots. -/
inductive Initial : Reactor α → Prop where
  | empty (floor : Span) : Initial (.empty floor)
  | ofSettings {memory : Memory} {settings : ReactorSettings} {r : Reactor α}
      (groups : settings.groups.toNat ≤ 4294967296)
      (notifications : settings.notifications.toNat ≤ 4294967296)
      (built : ofSettings memory settings = .ok r) : Initial r

theorem wellFormed_of_vacant {r : Reactor α} (hg : r.groups.WellFormed)
    (hn : r.notifications.WellFormed) (hgroup : ∀ g, r.groups.get? g = none)
    (hnote : ∀ h, r.notifications.get? h = none) (ha : r.active = []) (hq : r.ready = []) :
    r.WellFormed := by
  constructor <;> simp_all [Pool.contains]

theorem ofSettings_cases {memory : Memory} {settings : ReactorSettings} {r : Reactor α}
    (h : ofSettings memory settings = .ok r) :
    ∃ groups notifications, Pool.ofCapacity memory settings.groups.toNat = .ok groups ∧
      Pool.ofCapacity memory settings.notifications.toNat = .ok notifications ∧
      r = { (empty settings.floor : Reactor α) with groups, notifications } := by
  unfold ofSettings at h
  split at h
  · next groups notifications hg hn =>
    split at h
    · exact ⟨groups, notifications, hg, hn, (Except.ok.inj h).symm⟩
    · cases h
  · cases h

/-- A reactor starts well-formed. -/
theorem wellFormed_of_initial {r : Reactor α} (h : r.Initial) : r.WellFormed := by
  cases h with
  | empty floor =>
    refine wellFormed_of_vacant Pool.wellFormed_empty Pool.wellFormed_empty ?_ ?_ rfl rfl
    · exact fun g => by simp [empty, Pool.get?, Pool.slot?, Pool.empty]
    · exact fun h => by simp [empty, Pool.get?, Pool.slot?, Pool.empty]
  | ofSettings hgroups hnotes built =>
    obtain ⟨groups, notifications, hg, hn, rfl⟩ := ofSettings_cases built
    exact wellFormed_of_vacant (Pool.wellFormed_ofCapacity hgroups hg)
      (Pool.wellFormed_ofCapacity hnotes hn) (Pool.get?_ofCapacity hg) (Pool.get?_ofCapacity hn)
      rfl rfl

/-- Nothing stands in the ready queue of a new reactor. -/
theorem ready_of_initial {r : Reactor α} (h : r.Initial) : r.ready = [] := by
  cases h with
  | empty floor => rfl
  | ofSettings _ _ built =>
    obtain ⟨groups, notifications, -, -, rfl⟩ := ofSettings_cases built
    rfl

/-- A new reactor has no groups. -/
theorem active_of_initial {r : Reactor α} (h : r.Initial) : r.active = [] := by
  cases h with
  | empty floor => rfl
  | ofSettings _ _ built =>
    obtain ⟨groups, notifications, -, -, rfl⟩ := ofSettings_cases built
    rfl

/-- A new reactor holds nothing. -/
theorem held_of_initial {r : Reactor α} (h : r.Initial) : r.held = [] := by
  rw [held, active_of_initial h, ready_of_initial h]
  rfl

/-- Nothing is to be dispatched in a new reactor. -/
theorem isPending_of_initial {r : Reactor α} (h : r.Initial) (k : Handle) : r.isPending k = false := by
  by_contra hpends
  have hheld : k ∈ r.held := (wellFormed_of_initial h).mem_held.mpr (eq_true_of_ne_false hpends)
  rw [held_of_initial h] at hheld
  cases hheld

/-- No slot of a new reactor has been given back yet. -/
theorem generationAt_of_initial {r : Reactor α} (h : r.Initial) (i : UInt32) :
    r.notifications.generationAt i = 0 := by
  cases h with
  | empty floor => simp [empty, Pool.generationAt, Pool.empty]
  | ofSettings _ _ built =>
    obtain ⟨groups, notifications, -, hn, rfl⟩ := ofSettings_cases built
    exact Pool.generationAt_ofCapacity hn i

end Reactor

end EventLoop
