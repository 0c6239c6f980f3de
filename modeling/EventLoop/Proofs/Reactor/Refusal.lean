import EventLoop.Proofs.Pool.Refusal
import EventLoop.Proofs.Reactor.Capacity

/-!
# Registrations that are refused

A registration asks for a place among the active groups and a group, if its descriptor has none, for a place in
the list of the group, and for a notification. It fails if one of these is refused, whichever it is, and then
gives the group back.

* `Reactor.arm_isOk_iff` — a registration succeeds exactly if nothing is refused (`Reactor.Granted`).
* `Reactor.respared_of_arm` — a failed one moves no more than the spare groups (`Pool.Respared`).
* `Reactor.LooksLike` — what can be seen of a reactor.
* `Arms.enrols` — a successful registration, as far as can be seen (`Reactor.Enrols`).
-/

namespace EventLoop

namespace Reactor

variable {α : Type} {memory : Memory} {r r' : Reactor α} {request : Request α} {due : Option Instant}

/-! ## What a registration asks for -/

/-- The notifications that wait on a descriptor. -/
def waitingOn (r : Reactor α) (d : Descriptor) : List Handle := ((r.findGroup d).map r.pendingOf).getD []

/-- Nothing is refused that a registration on a descriptor asks for. -/
structure Granted (memory : Memory) (r : Reactor α) (d : Descriptor) : Prop where
  /-- Without a group for the descriptor: a place among the active ones, and a group, spare or new. -/
  active : r.findGroup d = none → memory.grants .groups ((r.active.length + 1) * Handle.bytes) = true
  group : r.findGroup d = none → r.groups.spare = [] → r.groups.canGrow memory = true
  /-- A place in the list of the group. -/
  pending : memory.grants .pending (((r.waitingOn d).length + 1) * Handle.bytes) = true
  /-- A notification, spare or new. -/
  notification : r.notifications.spare = [] → r.notifications.canGrow memory = true

theorem attach_isOk_iff (memory : Memory) {r : Reactor α} {g : Handle} {group : Group}
    (hg : r.groups.get? g = some group) (request : Request α) (due : Option Instant) :
    (r.attach memory g request due).isOk = true ↔
      memory.grants .pending ((group.pending.length + 1) * Handle.bytes) = true ∧
        (r.notifications.spare = [] → r.notifications.canGrow memory = true) := by
  rw [← Pool.acquire_isOk_iff]
  unfold attach
  rw [hg]
  dsimp only
  split
  · next hroom =>
    rw [hroom]
    cases r.notifications.acquire memory with
    | ok answer => simp [Except.isOk, Except.toBool]
    | error e => simp [Except.isOk, Except.toBool]
  · next hroom => simp [hroom, Except.isOk, Except.toBool]

/-- **A registration succeeds exactly if nothing is refused.** -/
theorem arm_isOk_iff (hr : r.WellFormed) :
    (r.arm memory request due).1.isOk = true ↔ r.Granted memory request.descriptor := by
  unfold arm
  cases hfind : r.findGroup request.descriptor with
  | some g =>
    obtain ⟨group, hg, -⟩ := findGroup_some hfind
    have hwaiting : r.waitingOn request.descriptor = group.pending := by
      rw [waitingOn, hfind, Option.map_some, Option.getD_some, pendingOf_of_get? hg]
    have hattach := attach_isOk_iff memory hg request due
    have hiff : r.Granted memory request.descriptor ↔ (r.attach memory g request due).isOk = true := by
      rw [hattach, ← hwaiting]
      refine ⟨fun h => ⟨h.pending, h.notification⟩, fun h => ⟨?_, ?_, h.1, h.2⟩⟩
      · exact fun hnone => absurd (hfind.symm.trans hnone) nofun
      · exact fun hnone => absurd (hfind.symm.trans hnone) nofun
    rw [hiff]
    dsimp only
    cases r.attach memory g request due with
    | ok answer => rfl
    | error e => rfl
  | none =>
    have hwaiting : r.waitingOn request.descriptor = [] := by
      rw [waitingOn, hfind]
      rfl
    dsimp only
    split
    · next hroom =>
      cases hacq : r.groups.acquire memory with
      | error e =>
        refine iff_of_false Bool.false_ne_true fun h => ?_
        have hok := Pool.acquire_isOk_iff.mpr (h.group hfind)
        rw [hacq] at hok
        cases hok
      | ok answer =>
        obtain ⟨g, groups⟩ := answer
        have hopen := adds_of_open hr.groups hacq request.descriptor
        have hattach := attach_isOk_iff memory (r := { r with groups := groups.modify g fun group =>
          { group with descriptor := request.descriptor } }) ((hopen.get? g).trans (if_pos rfl)) request due
        have hiff : r.Granted memory request.descriptor ↔
            ({ r with groups := groups.modify g fun group =>
              { group with descriptor := request.descriptor } }.attach memory g request due).isOk =
              true := by
          rw [hattach]
          refine ⟨fun h => ⟨hwaiting ▸ h.pending, h.notification⟩, fun h => ⟨?_, ?_, ?_, h.2⟩⟩
          · exact fun _ => hroom
          · exact fun _ => Pool.acquire_isOk_iff.mp (by rw [hacq]; rfl)
          · rw [hwaiting]
            exact h.1
        rw [hiff]
        dsimp only
        split
        · next hatt => rw [hatt]; rfl
        · next hatt => rw [hatt]; rfl
    · next hroom =>
      exact iff_of_false Bool.false_ne_true fun h => hroom (h.active hfind)

/-- A registration takes the notification that the pool hands out. -/
theorem acquire_of_arm {h : Handle} (ha : r.arm memory request due = (.ok h, r')) :
    ∃ q, r.notifications.acquire memory = .ok (h, q) := by
  have hattach : ∀ {s s' : Reactor α} {g : Handle}, s.attach memory g request due = .ok (h, s') →
      ∃ q, s.notifications.acquire memory = .ok (h, q) := by
    intro s s' g hatt
    unfold attach at hatt
    split at hatt
    · cases hatt
    · split at hatt
      · split at hatt
        · cases hatt
        · next k q hacq =>
          cases hatt
          exact ⟨q, hacq⟩
      · cases hatt
  unfold arm at ha
  split at ha
  · split at ha
    · next hatt =>
      cases ha
      exact hattach hatt
    · cases ha
  · split at ha
    · split at ha
      · cases ha
      · dsimp only at ha
        split at ha
        · next hatt =>
          cases ha
          obtain ⟨q, hacq⟩ := hattach hatt
          exact ⟨q, hacq⟩
        · cases ha
    · cases ha

/-- A registration that fails may have taken a spare group, which is the last one now, or opened a new one. -/
theorem respared_of_arm {e : ReactorError} (hr : r.WellFormed)
    (ha : r.arm memory request due = (.error e, r')) : r.groups.Respared r'.groups := by
  unfold arm at ha
  split at ha
  · split at ha
    · cases ha
    · cases ha
      exact .refl _
  · split at ha
    · split at ha
      · cases ha
        exact .refl _
      · next g groups hacq =>
        dsimp only at ha
        split at ha
        · cases ha
        · cases ha
          have hopen := adds_of_open hr.groups hacq request.descriptor
          exact Pool.respared_of_acquire hacq
            (Pool.contains_eq_true.mpr ⟨_, (hopen.get? g).trans (if_pos rfl)⟩)
    · cases ha
      exact .refl _

/-! ## What can be seen of the groups -/

/-- The active groups, in their order, with their descriptors and with what waits in them. -/
def listing (r : Reactor α) : List Group := r.active.filterMap r.groups.get?

/-- Puts a handle at the end of the group of a descriptor, or into a new group if it has none. -/
def enrol (d : Descriptor) (h : Handle) (l : List Group) : List Group :=
  if l.any fun group => group.descriptor = d then
    l.map fun group =>
      if group.descriptor = d then { group with pending := group.pending ++ [h] } else group
  else l ++ [{ descriptor := d, pending := [h] }]

/-- The reactors cannot be told apart by their groups, notifications and lookups. -/
structure LooksLike (r₁ r₂ : Reactor α) : Prop where
  listing : r₁.listing = r₂.listing
  ready : r₁.ready = r₂.ready
  pending : r₁.pending = r₂.pending
  isPending : ∀ h, r₁.isPending h = r₂.isPending h
  lookup : ∀ d callback, r₁.lookup d callback = r₂.lookup d callback

/-- The same notifications stand in the same groups and in the same queue. Spare slots may differ. -/
structure HoldsSame (r r' : Reactor α) : Prop where
  active : r'.active = r.active
  group : ∀ g, r'.groups.get? g = r.groups.get? g
  notification : ∀ h, r'.notifications.get? h = r.notifications.get? h
  ready : r'.ready = r.ready
  pending : r'.pending = r.pending

theorem Rests.holdsSame (h : r.Rests r') : r.HoldsSame r' where
  active := h.active
  group := h.get?
  notification _ := by rw [h.notifications]
  ready := h.ready
  pending := by rw [Reactor.pending, h.notifications, Reactor.pending]

theorem HoldsSame.listing_eq (h : r.HoldsSame r') : r'.listing = r.listing := by
  rw [listing, listing, h.active, funext h.group]

theorem Rests.listing_eq (h : r.Rests r') : r'.listing = r.listing := h.holdsSame.listing_eq

/-- What a lookup finds depends on the groups that can be seen. -/
theorem lookup_eq (r : Reactor α) (d : Descriptor) (callback : Callback) :
    r.lookup d callback =
      (r.listing.find? fun group => group.descriptor = d).bind
        fun group => group.pending.find? (r.armedWith callback) := by
  rw [listing, List.find?_filterMap]
  unfold lookup findGroup
  cases r.active.find? fun g => (r.groups.get? g).any fun group => group.descriptor = d with
  | none => rfl
  | some g => rfl

/-- What stands in the same places cannot be told apart. -/
theorem HoldsSame.looksLike (h : r.HoldsSame r') : r'.LooksLike r where
  listing := h.listing_eq
  ready := h.ready
  pending := h.pending
  isPending k := by rw [isPending, isPending, Pool.contains, Pool.contains, h.notification]
  lookup d callback := by
    have harmed : r'.armedWith = r.armedWith := by
      funext cb k
      rw [armedWith, h.notification, armedWith]
    rw [lookup_eq, lookup_eq, h.listing_eq, harmed]

theorem Rests.looksLike (h : r.Rests r') : r'.LooksLike r := h.holdsSame.looksLike

/-- A notification is added, as far as can be seen. -/
structure Enrols (r : Reactor α) (request : Request α) (due : Option Instant) (h : Handle)
    (r' : Reactor α) : Prop where
  absent : r.isPending h = false
  listing : r'.listing = enrol request.descriptor h r.listing
  armed : ∃ g, r'.notifications.get? h = some (request.armed due g)
  others : ∀ k, k ≠ h → r'.notifications.get? k = r.notifications.get? k
  pending : r'.pending = r.pending + 1
  ready : r'.ready = r.ready

/-- The group of the request was there before exactly if there was one for its descriptor. -/
theorem Arms.any_listing {h g : Handle} (a : r.Arms request due h g r') (hr : r.WellFormed) :
    (r.listing.any fun group => group.descriptor = request.descriptor) = r.groups.contains g := by
  rw [Bool.eq_iff_iff, List.any_eq_true, Pool.contains_eq_true]
  constructor
  · rintro ⟨group, hmem, hd⟩
    obtain ⟨k, -, hk⟩ := List.mem_filterMap.mp hmem
    obtain rfl := (a.descriptor k group hk).mp (of_decide_eq_true hd)
    exact ⟨group, hk⟩
  · rintro ⟨group, hg⟩
    exact ⟨group, List.mem_filterMap.mpr ⟨g, hr.mem_active_of_get? hg, hg⟩,
      decide_eq_true ((a.descriptor g group hg).mpr rfl)⟩

theorem Arms.listing_eq {h g : Handle} (a : r.Arms request due h g r') (hr : r.WellFormed) :
    r'.listing = enrol request.descriptor h r.listing := by
  unfold enrol
  rw [a.any_listing hr]
  unfold Reactor.listing
  rw [a.active]
  by_cases hg : r.groups.contains g = true
  · rw [if_pos hg, if_pos hg, List.map_filterMap]
    refine List.filterMap_congr fun k _ => ?_
    rw [a.get?]
    split
    · next hk =>
      obtain ⟨group, hgroup⟩ := Pool.contains_eq_true.mp hg
      have hd : group.descriptor = request.descriptor := (a.descriptor g group hgroup).mpr rfl
      rw [hk, hgroup, Option.map_some, if_pos hd, pendingOf_of_get? hgroup, ← hd]
    · next hk =>
      cases hget : r.groups.get? k with
      | none => rfl
      | some group => rw [Option.map_some, if_neg fun hd => hk ((a.descriptor k group hget).mp hd)]
  · rw [if_neg hg, if_neg hg, List.filterMap_append]
    have hpending : r.pendingOf g = [] := by
      refine pendingOf_of_none ?_
      simpa [Pool.contains] using hg
    congr 1
    · refine List.filterMap_congr fun k hk => ?_
      rw [a.get?, if_neg]
      rintro rfl
      exact hg ((hr.mem_active k).mp hk)
    · rw [List.filterMap_cons, a.get?, if_pos rfl, hpending]
      rfl

theorem Arms.enrols {h g : Handle} (a : r.Arms request due h g r') (hr : r.WellFormed) :
    r.Enrols request due h r' where
  absent := by rw [isPending, Pool.contains, a.notifications.absent]; rfl
  listing := a.listing_eq hr
  armed := ⟨g, by rw [a.notifications.get?, if_pos rfl]⟩
  others k hk := by rw [a.notifications.get?, if_neg hk]
  pending := a.notifications.activeCount
  ready := a.ready

namespace Enrols

variable {h : Handle} {r₁ r₂ : Reactor α}

/-- Another reactor in which the same can be seen. -/
theorem of_rests {s : Reactor α} (a : r'.Enrols request due h s) (hrests : r.Rests r') :
    r.Enrols request due h s where
  absent := by
    have habsent := a.absent
    rwa [isPending, hrests.notifications] at habsent
  listing := by rw [a.listing, hrests.listing_eq]
  armed := a.armed
  others k hk := by rw [a.others k hk, hrests.notifications]
  pending := by rw [a.pending, Reactor.pending, hrests.notifications, Reactor.pending]
  ready := by rw [a.ready, hrests.ready]

theorem armedWith_eq (a : r.Enrols request due h r₁) (b : r.Enrols request due h r₂) :
    r₁.armedWith = r₂.armedWith := by
  funext callback k
  unfold armedWith
  by_cases hk : k = h
  · obtain ⟨g₁, h₁⟩ := a.armed
    obtain ⟨g₂, h₂⟩ := b.armed
    rw [hk, h₁, h₂]
    rfl
  · rw [a.others k hk, b.others k hk]

/-- The same registration leads to what looks the same. -/
theorem looksLike (a : r.Enrols request due h r₁) (b : r.Enrols request due h r₂) : r₁.LooksLike r₂ where
  listing := by rw [a.listing, b.listing]
  ready := by rw [a.ready, b.ready]
  pending := by rw [a.pending, b.pending]
  isPending k := by
    unfold isPending Pool.contains
    by_cases hk : k = h
    · obtain ⟨g₁, h₁⟩ := a.armed
      obtain ⟨g₂, h₂⟩ := b.armed
      rw [hk, h₁, h₂]
      rfl
    · rw [a.others k hk, b.others k hk]
  lookup d callback := by
    rw [Reactor.lookup_eq, Reactor.lookup_eq, a.listing, b.listing, a.armedWith_eq b]

end Enrols

end Reactor

end EventLoop
