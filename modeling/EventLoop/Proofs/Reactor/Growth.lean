import EventLoop.Proofs.Pool.Refusal
import EventLoop.Proofs.Reactor.Dispatch
import EventLoop.Proofs.Reactor.Registration

/-!
# Room for one more

A registration fails for want of memory, or when a pool may not grow. The pools of a reactor grow without
bound (`Reactor.Grows`), up to as many slots as positions can tell apart.

* `Grows.arm`, `Grows.collect`, `Grows.takeReady` — no operation sets a bound.
* `arm_ok` — given the memory, a registration succeeds.
-/

namespace EventLoop

namespace Reactor

variable {α : Type}

/-- No bound was set on the growth of the pools. -/
structure Grows (r : Reactor α) : Prop where
  groups : r.groups.limit = none
  notifications : r.notifications.limit = none

theorem grows_of_initial {r : Reactor α} (h : r.Initial) : r.Grows := by
  have hcapacity : ∀ {β : Type} [Poolable β] {memory : Memory} {n : Nat} {p : Pool β},
      Pool.ofCapacity memory n = .ok p → p.limit = none := by
    intro β _ memory n p hp
    unfold Pool.ofCapacity at hp
    split at hp
    · cases hp
      rfl
    · cases hp
  cases h with
  | empty floor => exact ⟨rfl, rfl⟩
  | ofSettings _ _ built =>
    obtain ⟨groups, notifications, hg, hn, rfl⟩ := ofSettings_cases built
    exact ⟨hcapacity hg, hcapacity hn⟩

namespace Grows

variable {r : Reactor α}

theorem attach (hr : r.Grows) {memory : Memory} {g h : Handle} {request : Request α}
    {due : Option Instant} {r' : Reactor α} (ha : r.attach memory g request due = .ok (h, r')) :
    r'.Grows := by
  unfold Reactor.attach at ha
  split at ha
  · cases ha
  · split at ha
    · split at ha
      · cases ha
      · next k notifications hacq =>
        cases ha
        exact ⟨(Pool.limit_modify _ _ _).trans hr.groups,
          (Pool.limit_modify _ _ _).trans ((Pool.limit_acquire hacq).trans hr.notifications)⟩
    · cases ha

theorem arm (hr : r.Grows) {memory : Memory} {request : Request α} {due : Option Instant} {h : Handle}
    {r' : Reactor α} (ha : r.arm memory request due = (.ok h, r')) : r'.Grows := by
  unfold Reactor.arm at ha
  split at ha
  · split at ha
    · next k r₁ hatt =>
      cases ha
      have hgrows := hr.attach hatt
      exact ⟨hgrows.groups, hgrows.notifications⟩
    · cases ha
  · split at ha
    · split at ha
      · cases ha
      · next g groups hacq =>
        dsimp only at ha
        split at ha
        · next k r₁ hatt =>
          cases ha
          have hopened : Grows { r with
              groups := groups.modify g fun group => { group with descriptor := request.descriptor } } :=
            ⟨(Pool.limit_modify _ _ _).trans ((Pool.limit_acquire hacq).trans hr.groups),
              hr.notifications⟩
          have hgrows := hopened.attach hatt
          exact ⟨hgrows.groups, hgrows.notifications⟩
        · cases ha
    · cases ha

theorem limit_sift (fired : Events) (now : Instant) (l : List Handle) (p : Pool (Notification α)) :
    (sift fired now l p).2.2.limit = p.limit := by
  induction l generalizing p with
  | nil => rfl
  | cons h rest ih =>
    unfold sift
    split
    · exact ih p
    · dsimp only
      split
      · exact ih p
      · exact (ih _).trans (Pool.limit_modify _ _ _)

theorem selectIn (hr : r.Grows) (now : Instant) (g : Handle) (fired : Events) :
    (selectIn now r g fired).Grows := by
  unfold Reactor.selectIn
  split
  · exact hr
  · exact ⟨(Pool.limit_modify _ _ _).trans hr.groups, (limit_sift _ _ _ _).trans hr.notifications⟩

theorem limit_retire (l : List Handle) (p : Pool Group) : (retire l p).2.limit = p.limit := by
  induction l generalizing p with
  | nil => rfl
  | cons g rest ih =>
    unfold retire
    split
    · exact (ih _).trans (Pool.limit_discard p g)
    · exact ih p

theorem collect (hr : r.Grows) (reported : List Conditions) (now : Instant) :
    (r.collect reported now).Grows := by
  have hfold : ∀ (l : List (Handle × Events)) {s : Reactor α}, s.Grows →
      (l.foldl (fun s p => Reactor.selectIn now s p.1 p.2) s).Grows := by
    intro l
    induction l with
    | nil => exact id
    | cons p l ih => exact fun hs => ih (hs.selectIn now p.1 p.2)
  have hselected := hfold (r.firedOf r.active reported) hr
  exact ⟨(limit_retire _ _).trans hselected.groups, hselected.notifications⟩

theorem takeReady (hr : r.Grows) {e : Option (Event α)} {r' : Reactor α}
    (ht : r.takeReady = some (e, r')) : r'.Grows := by
  unfold Reactor.takeReady at ht
  split at ht
  · cases ht
  · split at ht
    · cases ht
      exact ⟨hr.groups, hr.notifications⟩
    · next n notifications hrel =>
      have hlimit := (Pool.limit_release hrel).trans hr.notifications
      split at ht
      · cases ht
        exact ⟨hr.groups, hlimit⟩
      · cases ht
        exact ⟨hr.groups, hlimit⟩

end Grows

/-! ## Registrations that succeed -/

/-- No more groups are in use than notifications, since none is empty. -/
theorem WellFormed.activeCount_groups_le {r : Reactor α} (hr : r.WellFormed) :
    r.groups.activeCount ≤ r.pending := by
  have hlength : ∀ l : List Handle, (∀ g ∈ l, r.pendingOf g ≠ []) →
      l.length ≤ (l.flatMap r.pendingOf).length := by
    intro l
    induction l with
    | nil => exact fun _ => Nat.le_refl _
    | cons g l ih =>
      intro hne
      have hpos := List.length_pos_iff.mpr (hne g List.mem_cons_self)
      have hrest := ih fun k hk => hne k (List.mem_cons_of_mem _ hk)
      rw [List.flatMap_cons, List.length_append, List.length_cons]
      omega
  rw [hr.activeCount_groups, hr.pending_eq, held, List.length_append]
  refine Nat.le_trans (hlength r.active fun g hg => ?_) (Nat.le_add_right _ _)
  obtain ⟨group, hgroup⟩ := hr.exists_group hg
  rw [pendingOf_of_get? hgroup]
  exact hr.pending_ne_nil g group hgroup

theorem attach_of_acquire {memory : Memory} (hmem : ∀ what bytes, memory.grants what bytes = true)
    {r : Reactor α} {g : Handle} {group : Group} (hg : r.groups.get? g = some group)
    (hacq : ∃ h q, r.notifications.acquire memory = .ok (h, q)) (request : Request α)
    (due : Option Instant) : ∃ h r', r.attach memory g request due = .ok (h, r') := by
  obtain ⟨h, q, hq⟩ := hacq
  unfold Reactor.attach
  rw [hg]
  dsimp only
  rw [if_pos (hmem _ _), hq]
  exact ⟨_, _, rfl⟩

/-- **Given the memory, a registration succeeds**, unless the positions are used up. -/
theorem arm_ok {memory : Memory} (hmem : ∀ what bytes, memory.grants what bytes = true) {r : Reactor α}
    (hr : r.WellFormed) (hgrows : r.Grows) (hfew : r.pending < 4294967296) (request : Request α)
    (due : Option Instant) : ∃ h r', r.arm memory request due = (.ok h, r') := by
  have hacq := Pool.exists_acquire hmem hr.notifications hgrows.notifications hfew
  unfold Reactor.arm
  cases hfind : r.findGroup request.descriptor with
  | some g =>
    obtain ⟨group, hg, -⟩ := findGroup_some hfind
    obtain ⟨h, r', hatt⟩ := attach_of_acquire hmem hg hacq request due
    dsimp only
    rw [hatt]
    exact ⟨_, _, rfl⟩
  | none =>
    obtain ⟨g, groups, hgroups⟩ := Pool.exists_acquire hmem hr.groups hgrows.groups
      (Nat.lt_of_le_of_lt hr.activeCount_groups_le hfew)
    have hopen := adds_of_open hr.groups hgroups request.descriptor
    obtain ⟨h, r', hatt⟩ := attach_of_acquire hmem (r := { r with
      groups := groups.modify g fun group => { group with descriptor := request.descriptor } })
      ((hopen.get? g).trans (if_pos rfl)) hacq request due
    dsimp only
    rw [if_pos (hmem _ _), hgroups]
    dsimp only
    rw [hatt]
    exact ⟨_, _, rfl⟩

end Reactor

end EventLoop
