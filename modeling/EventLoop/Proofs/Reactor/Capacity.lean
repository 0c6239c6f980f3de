import EventLoop.Proofs.Pool.Capacity
import EventLoop.Proofs.Reactor.Growth
import EventLoop.Proofs.Reactor.Selection

/-!
# When the pools of a reactor grow

After any operation of a reactor each of its pools has the slots that it had, or exactly as many as are in use
now (`Pool.Fills`).

* `Reactor.SameSlots` — withdrawing, selecting and dispatching need no slots.
* `Reactor.fills_of_arm` — a registration fills both pools. One that fails leaves the notifications alone, but a
  slot for its group may have been opened in vain.
* `Reactor.error_of_arm` — which happens only for want of memory.
-/

namespace EventLoop

variable {α : Type}

/-! ## Operations that need no slots -/

namespace Reactor

/-- Both pools have as many slots as before. -/
structure SameSlots (r r' : Reactor α) : Prop where
  groups : r'.groups.capacity = r.groups.capacity
  notifications : r'.notifications.capacity = r.notifications.capacity

theorem SameSlots.refl (r : Reactor α) : r.SameSlots r := ⟨rfl, rfl⟩

theorem SameSlots.trans {r r' r'' : Reactor α} (h : r.SameSlots r') (h' : r'.SameSlots r'') :
    r.SameSlots r'' :=
  ⟨h'.groups.trans h.groups, h'.notifications.trans h.notifications⟩

theorem sameSlots_detach (r : Reactor α) (g h : Handle) : r.SameSlots (r.detach g h) := by
  unfold detach
  split
  · exact .refl r
  · dsimp only
    split
    · exact ⟨by simp, rfl⟩
    · exact ⟨by simp, rfl⟩

theorem sameSlots_cancel (r : Reactor α) (h : Handle) : r.SameSlots (r.cancel h).2 := by
  unfold cancel
  dsimp only
  split
  · exact .refl r
  · split
    · next g _ => exact (sameSlots_detach r g h).trans ⟨rfl, by simp⟩
    · exact ⟨rfl, by simp⟩
    · exact .refl r

theorem capacity_sift (fired : Events) (now : Instant) (l : List Handle) (p : Pool (Notification α)) :
    (sift fired now l p).2.2.capacity = p.capacity := by
  induction l generalizing p with
  | nil => rfl
  | cons h rest ih =>
    unfold sift
    split
    · exact ih p
    · dsimp only
      split
      · exact ih p
      · exact (ih _).trans (Pool.capacity_modify _ _ _)

theorem sameSlots_selectIn (now : Instant) (r : Reactor α) (g : Handle) (fired : Events) :
    r.SameSlots (selectIn now r g fired) := by
  unfold selectIn
  split
  · exact .refl r
  · exact ⟨Pool.capacity_modify _ _ _, capacity_sift _ _ _ _⟩

theorem capacity_retire (l : List Handle) (p : Pool Group) : (retire l p).2.capacity = p.capacity := by
  induction l generalizing p with
  | nil => rfl
  | cons g rest ih =>
    unfold retire
    split
    · exact (ih _).trans (Pool.capacity_discard p g)
    · exact ih p

theorem sameSlots_collect (r : Reactor α) (reported : List Conditions) (now : Instant) :
    r.SameSlots (r.collect reported now) := by
  have hfold : ∀ (l : List (Handle × Events)) (s : Reactor α),
      s.SameSlots (l.foldl (fun s p => selectIn now s p.1 p.2) s) := by
    intro l
    induction l with
    | nil => exact fun s => .refl s
    | cons p l ih => exact fun s => (sameSlots_selectIn now s p.1 p.2).trans (ih _)
  exact (hfold (r.firedOf r.active reported) r).trans ⟨capacity_retire _ _, rfl⟩

theorem sameSlots_of_takeReady {r r' : Reactor α} {e : Option (Event α)}
    (ht : r.takeReady = some (e, r')) : r.SameSlots r' := by
  unfold takeReady at ht
  split at ht
  · cases ht
  · split at ht
    · cases ht
      exact ⟨rfl, rfl⟩
    · next n notifications hrel =>
      have hcapacity := Pool.capacity_release hrel
      split at ht
      · cases ht
        exact ⟨rfl, hcapacity⟩
      · cases ht
        exact ⟨rfl, hcapacity⟩

/-! ## Registration -/

theorem fills_of_attach {memory : Memory} {r r' : Reactor α} {g h : Handle} {request : Request α}
    {due : Option Instant} (ha : r.attach memory g request due = .ok (h, r'))
    (hn : r.notifications.WellFormed) :
    r.notifications.Fills r'.notifications ∧
      r'.groups = r.groups.modify g fun group => { group with pending := group.pending ++ [h] } := by
  unfold attach at ha
  split at ha
  · cases ha
  · split at ha
    · split at ha
      · cases ha
      · next k notifications hacq =>
        cases ha
        exact ⟨(Pool.fills_of_acquire hn hacq).modify _ _, rfl⟩
    · cases ha

/-- A registration that fails needs no notification. -/
theorem notifications_fill_of_arm (memory : Memory) {r : Reactor α} (hr : r.WellFormed)
    (request : Request α) (due : Option Instant) :
    r.notifications.Fills (r.arm memory request due).2.notifications := by
  have hsame : r.notifications.Fills r.notifications := Pool.fills_of_capacity_eq rfl
  unfold arm
  split
  · split
    · next hatt => exact (fills_of_attach hatt hr.notifications).1
    · exact hsame
  · split
    · split
      · exact hsame
      · dsimp only
        split
        · next hatt => exact (fills_of_attach hatt hr.notifications).1
        · exact hsame
    · exact hsame

/-- A registration that succeeds needs a group only if there is none for its descriptor. -/
theorem groups_fill_of_arm {memory : Memory} {r r' : Reactor α} {h : Handle} {request : Request α}
    {due : Option Instant} (hr : r.WellFormed) (ha : r.arm memory request due = (.ok h, r')) :
    r.groups.Fills r'.groups := by
  unfold arm at ha
  split at ha
  · split at ha
    · next k r₁ hatt =>
      cases ha
      rw [(fills_of_attach hatt hr.notifications).2]
      exact Pool.fills_of_capacity_eq (Pool.capacity_modify _ _ _)
    · cases ha
  · split at ha
    · split at ha
      · cases ha
      · next g groups hacq =>
        dsimp only at ha
        split at ha
        · next k r₁ hatt =>
          cases ha
          rw [(fills_of_attach hatt hr.notifications).2]
          refine Pool.Fills.modify ?_ _ _
          exact (Pool.fills_of_acquire hr.groups hacq).modify _ _
        · cases ha
    · cases ha

/-- A registration fails only for want of memory: the group that it asks for is there. -/
theorem error_of_arm {memory : Memory} {r r' : Reactor α} {request : Request α} {due : Option Instant}
    {e : ReactorError} (hr : r.WellFormed) (ha : r.arm memory request due = (.error e, r')) :
    e = .outOfMemory := by
  have hattach : ∀ {s : Reactor α} {g : Handle} {group : Group} {e : ReactorError},
      s.groups.get? g = some group → s.attach memory g request due = .error e → e = .outOfMemory := by
    intro s g group e hg hatt
    unfold attach at hatt
    rw [hg] at hatt
    dsimp only at hatt
    split at hatt
    · split at hatt
      · next pe _ =>
        cases pe
        cases hatt
        rfl
      · cases hatt
    · cases hatt
      rfl
  -- the group was found among the active ones, or opened just now
  unfold arm at ha
  split at ha
  · next g hfind =>
    obtain ⟨group, hg, -⟩ := findGroup_some hfind
    split at ha
    · cases ha
    · next hatt =>
      cases ha
      exact hattach hg hatt
  · split at ha
    · split at ha
      · next pe _ =>
        cases pe
        cases ha
        rfl
      · next g groups hacq =>
        have hopen := adds_of_open hr.groups hacq request.descriptor
        dsimp only at ha
        split at ha
        · cases ha
        · next hatt =>
          cases ha
          exact hattach ((hopen.get? g).trans (if_pos rfl)) hatt
    · cases ha
      rfl

end Reactor

end EventLoop
