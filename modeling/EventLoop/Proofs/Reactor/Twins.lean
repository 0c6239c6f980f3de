import EventLoop.Proofs.Machine.Occurrence
import EventLoop.Proofs.Machine.History
import Mathlib.Data.List.Forall2

/-!
# Reactors that differ in their handles

Two reactors are twins if they hold the same under other handles: which handle of the one stands for which
of the other is said by a list of pairs. What their pools hold in spare, and in which slots, may differ.

* `Reactor.Twins` — groups, notifications and the ready queue correspond.
* `Twins.pollSet_eq`, `Twins.earliest_eq` — twins ask the same of a wait.
* `Twins.readiness_eq`, `Twins.isSelected_eq` — a tick selects the same.
* `Twins.lookup` — looking for a notification finds the same one.
* `Effect.twins` — if the same happens to twins, they are twins afterwards.
-/

namespace EventLoop

variable {α : Type}

/-! ## Pairs of handles -/

/-- The handle of the one reactor stands for the handle of the other. -/
def Paired (ν : List (Handle × Handle)) (h h' : Handle) : Prop := (h, h') ∈ ν

/-- No handle stands for two. -/
def OneToOne (ν : List (Handle × Handle)) : Prop :=
  ∀ h h' k k', Paired ν h h' → Paired ν k k' → (h = k ↔ h' = k')

theorem Paired.append {ν : List (Handle × Handle)} {h h' : Handle} (hp : Paired ν h h')
    (ν' : List (Handle × Handle)) : Paired (ν ++ ν') h h' :=
  List.mem_append_left ν' hp

theorem paired_append_singleton (ν : List (Handle × Handle)) (h h' : Handle) :
    Paired (ν ++ [(h, h')]) h h' :=
  List.mem_append_right ν List.mem_cons_self

/-- Two lists without repetition, side by side. -/
theorem oneToOne_zip {l l' : List Handle} (hl : l.Nodup) (hl' : l'.Nodup) : OneToOne (l.zip l') := by
  intro h h' k k' hp kp
  obtain ⟨i, hi⟩ := List.mem_iff_getElem?.mp hp
  obtain ⟨j, hj⟩ := List.mem_iff_getElem?.mp kp
  obtain ⟨hi₁, hi₂⟩ := List.getElem?_zip_eq_some.mp hi
  obtain ⟨hj₁, hj₂⟩ := List.getElem?_zip_eq_some.mp hj
  constructor
  · rintro rfl
    obtain rfl := (List.getElem?_inj (List.getElem?_eq_some_iff.mp hi₁).1 hl).mp (hi₁.trans hj₁.symm)
    exact Option.some.inj (hi₂.symm.trans hj₂)
  · rintro rfl
    obtain rfl := (List.getElem?_inj (List.getElem?_eq_some_iff.mp hi₂).1 hl').mp (hi₂.trans hj₂.symm)
    exact Option.some.inj (hi₁.symm.trans hj₁)

/-! ## Lists side by side -/

section

variable {β γ δ : Type} {R S : β → γ → Prop} {l : List β} {l' : List γ}

theorem map_eq_of_forall₂ (hl : List.Forall₂ R l l') {f : β → δ} {g : γ → δ}
    (hfg : ∀ a b, R a b → f a = g b) : l.map f = l'.map g := by
  rw [← List.forall₂_eq_eq_eq, List.forall₂_map_left_iff, List.forall₂_map_right_iff]
  exact hl.imp hfg

theorem any_eq_of_forall₂ (hl : List.Forall₂ R l l') {p : β → Bool} {q : γ → Bool}
    (hpq : ∀ a b, R a b → p a = q b) : l.any p = l'.any q := by
  have hmap := congrArg (fun l => List.any l id) (map_eq_of_forall₂ hl hpq)
  simpa [List.any_map] using hmap

theorem filterMap_eq_of_forall₂ (hl : List.Forall₂ R l l') {f : β → Option δ} {g : γ → Option δ}
    (hfg : ∀ a b, R a b → f a = g b) : l.filterMap f = l'.filterMap g := by
  have hmap := congrArg (List.filterMap id) (map_eq_of_forall₂ hl hfg)
  simpa [List.filterMap_map] using hmap

/-- What passes a test may be related more closely. -/
theorem forall₂_filter (hl : List.Forall₂ R l l') {p : β → Bool} {q : γ → Bool}
    (hpq : ∀ a b, R a b → p a = q b) (hS : ∀ a b, R a b → p a = true → S a b) :
    List.Forall₂ S (l.filter p) (l'.filter q) := by
  induction hl with
  | nil => exact .nil
  | @cons a b l l' hab _ ih =>
    by_cases hp : p a = true
    · rw [List.filter_cons_of_pos hp, List.filter_cons_of_pos (hpq a b hab ▸ hp)]
      exact .cons (hS a b hab hp) ih
    · rw [List.filter_cons_of_neg hp, List.filter_cons_of_neg (hpq a b hab ▸ hp)]
      exact ih

theorem rel_find? (hl : List.Forall₂ R l l') {p : β → Bool} {q : γ → Bool}
    (hpq : ∀ a b, R a b → p a = q b) : Option.Rel R (l.find? p) (l'.find? q) := by
  induction hl with
  | nil => exact .none
  | @cons a b l l' hab _ ih =>
    by_cases hp : p a = true
    · rw [List.find?_cons_of_pos hp, List.find?_cons_of_pos (hpq a b hab ▸ hp)]
      exact .some hab
    · rw [List.find?_cons_of_neg hp, List.find?_cons_of_neg (hpq a b hab ▸ hp)]
      exact ih

end

/-! ## What twins hold -/

/-- The notifications differ at most in which group they stand. -/
structure Notification.Like (n n' : Notification α) : Prop where
  descriptor : n.descriptor = n'.descriptor
  interest : n.interest = n'.interest
  due : n.due = n'.due
  triggered : n.triggered = n'.triggered
  ready : n.place = .ready ↔ n'.place = .ready
  payload : n.payload = n'.payload

theorem Request.like_armed (request : Request α) (due : Option Instant) (g g' : Handle) :
    (request.armed due g).Like (request.armed due g') where
  descriptor := rfl
  interest := rfl
  due := rfl
  triggered := rfl
  ready := by simp [armed]
  payload := rfl

/-- The groups hold the same. -/
structure Group.Like (ν : List (Handle × Handle)) (a a' : Group) : Prop where
  descriptor : a.descriptor = a'.descriptor
  pending : List.Forall₂ (Paired ν) a.pending a'.pending

namespace Reactor

/-- The handles name groups that hold the same. -/
def SameGroup (ν : List (Handle × Handle)) (r r' : Reactor α) (g g' : Handle) : Prop :=
  ∃ a a', r.groups.get? g = some a ∧ r'.groups.get? g' = some a' ∧ a.Like ν a'

/-- The reactors hold the same under handles that stand for each other. -/
structure Twins (ν : List (Handle × Handle)) (r r' : Reactor α) : Prop where
  wellFormed : r.WellFormed
  wellFormed' : r'.WellFormed
  active : List.Forall₂ (SameGroup ν r r') r.active r'.active
  ready : List.Forall₂ (Paired ν) r.ready r'.ready
  /-- Handles that stand for each other are in use at the same time, for the same. -/
  like : ∀ h h', Paired ν h h' →
    Option.Rel Notification.Like (r.notifications.get? h) (r'.notifications.get? h')
  floor : r.floor = r'.floor

/-- Counters play no part. -/
theorem Twins.recount {ν : List (Handle × Handle)} {r r' : Reactor α} (t : Twins ν r r')
    (c c' : Counters) : Twins ν (r.recount c) (r'.recount c') :=
  ⟨t.wellFormed.recount c, t.wellFormed'.recount c', t.active, t.ready, t.like, t.floor⟩

namespace Twins

variable {ν : List (Handle × Handle)} {r r' : Reactor α}

/-! ## What can be seen of twins -/

theorem active_length (t : Twins ν r r') : r.active.length = r'.active.length := t.active.length_eq

theorem held (t : Twins ν r r') : List.Forall₂ (Paired ν) r.held r'.held := by
  refine List.rel_append (List.rel_flatMap t.active ?_) t.ready
  rintro g g' ⟨a, a', ha, ha', hlike⟩
  rw [pendingOf_of_get? ha, pendingOf_of_get? ha']
  exact hlike.pending

theorem pending_eq (t : Twins ν r r') : r.pending = r'.pending := by
  rw [t.wellFormed.pending_eq, t.wellFormed'.pending_eq]
  exact t.held.length_eq

/-- Handles that stand for each other are both stale, or name the same. -/
theorem like_cases (t : Twins ν r r') {h h' : Handle} (hp : Paired ν h h') :
    r.notifications.get? h = none ∧ r'.notifications.get? h' = none ∨
      ∃ n n', r.notifications.get? h = some n ∧ r'.notifications.get? h' = some n' ∧ n.Like n' := by
  have hlike := t.like h h' hp
  generalize r.notifications.get? h = v, r'.notifications.get? h' = v' at hlike
  cases hlike with
  | none => exact Or.inl ⟨rfl, rfl⟩
  | some hlike => exact Or.inr ⟨_, _, rfl, rfl, hlike⟩

theorem isPending_eq (t : Twins ν r r') {h h' : Handle} (hp : Paired ν h h') :
    r.isPending h = r'.isPending h' := by
  unfold isPending Pool.contains
  rcases t.like_cases hp with ⟨hn, hn'⟩ | ⟨n, n', hn, hn', -⟩
  · rw [hn, hn']
  · rw [hn, hn']
    rfl

theorem armedWith_eq (t : Twins ν r r') (callback : Callback) {h h' : Handle} (hp : Paired ν h h') :
    r.armedWith callback h = r'.armedWith callback h' := by
  unfold armedWith
  rcases t.like_cases hp with ⟨hn, hn'⟩ | ⟨n, n', hn, hn', hlike⟩
  · rw [hn, hn']
  · rw [hn, hn', Option.bind_some, Option.bind_some, hlike.payload]

theorem findGroup (t : Twins ν r r') (d : Descriptor) :
    Option.Rel (SameGroup ν r r') (r.findGroup d) (r'.findGroup d) := by
  refine rel_find? t.active ?_
  rintro g g' ⟨a, a', ha, ha', hlike⟩
  rw [ha, ha', Option.any_some, Option.any_some, hlike.descriptor]

/-- **Looking for a notification finds the same one.** -/
theorem lookup (t : Twins ν r r') (d : Descriptor) (callback : Callback) :
    Option.Rel (Paired ν) (r.lookup d callback) (r'.lookup d callback) := by
  unfold Reactor.lookup
  have hfind := t.findGroup d
  generalize r.findGroup d = found, r'.findGroup d = found' at hfind
  cases hfind with
  | none => exact .none
  | some hg =>
    obtain ⟨a, a', ha, ha', hlike⟩ := hg
    simp only [Option.bind_eq_bind, Option.bind_some, ha, ha']
    exact rel_find? hlike.pending fun h h' hp => t.armedWith_eq callback hp

/-! ## Before the wait -/

theorem members (t : Twins ν r r') {g g' : Handle} (hg : SameGroup ν r r' g g') :
    List.Forall₂ Notification.Like (r.members g) (r'.members g') := by
  obtain ⟨a, a', ha, ha', hlike⟩ := hg
  unfold Reactor.members
  rw [ha, ha']
  exact List.rel_filterMap (fun h h' hp => t.like h h' hp) hlike.pending

theorem interestOf_eq (t : Twins ν r r') {g g' : Handle} (hg : SameGroup ν r r' g g') :
    r.interestOf g = r'.interestOf g' := by
  refine List.rel_foldl (P := Eq) (R := Notification.Like) ?_ rfl (t.members hg)
  rintro e _ rfl n n' hlike
  exact congrArg (e ||| ·) hlike.interest

theorem dueOf_eq (t : Twins ν r r') {g g' : Handle} (hg : SameGroup ν r r' g g') :
    r.dueOf g = r'.dueOf g' := by
  refine List.rel_foldl (P := Eq) (R := Notification.Like) ?_ rfl (t.members hg)
  rintro due _ rfl n n' hlike
  exact congrArg (sooner due) hlike.due

/-- **Twins wait for the same instant.** -/
theorem earliest_eq (t : Twins ν r r') : r.earliest = r'.earliest := by
  refine List.rel_foldl (P := Eq) (R := SameGroup ν r r') ?_ rfl t.active
  rintro due _ rfl g g' hg
  exact congrArg (sooner due) (t.dueOf_eq hg)

theorem entryOf_eq (t : Twins ν r r') {g g' : Handle} (hg : SameGroup ν r r' g g') :
    r.entryOf g = r'.entryOf g' := by
  have hinterest := t.interestOf_eq hg
  obtain ⟨a, a', ha, ha', hlike⟩ := hg
  unfold entryOf
  rw [ha, ha', hinterest]
  simp only [Option.bind_eq_bind, Option.bind_some, hlike.descriptor]

/-- **Twins ask the same of a wait.** -/
theorem pollSet_eq (t : Twins ν r r') : r.pollSet = r'.pollSet :=
  filterMap_eq_of_forall₂ t.active fun _ _ hg => t.entryOf_eq hg

/-! ## After the wait -/

theorem readiness_eq (t : Twins ν r r') (reported : List Conditions) (d : Descriptor) :
    r.readiness reported d = r'.readiness reported d := by
  unfold readiness
  rw [t.pollSet_eq]

theorem maskOf_eq (t : Twins ν r r') (reported : List Conditions) (now : Instant)
    {n n' : Notification α} (hlike : n.Like n') :
    r.maskOf reported now n = r'.maskOf reported now n' := by
  unfold maskOf
  rw [t.readiness_eq, hlike.descriptor, hlike.interest, hlike.due]

theorem isSelected_eq (t : Twins ν r r') (reported : List Conditions) (now : Instant)
    {n n' : Notification α} (hlike : n.Like n') :
    r.isSelected reported now n = r'.isSelected reported now n' := by
  unfold isSelected
  rw [t.maskOf_eq reported now hlike]
  simp only [ne_eq, hlike.ready]

theorem selects_eq (t : Twins ν r r') (reported : List Conditions) (now : Instant) {h h' : Handle}
    (hp : Paired ν h h') : r.selects reported now h = r'.selects reported now h' := by
  unfold selects
  rcases t.like_cases hp with ⟨hn, hn'⟩ | ⟨n, n', hn, hn', hlike⟩
  · rw [hn, hn', Option.any_none, Option.any_none]
  · rw [hn, hn', Option.any_some, Option.any_some, t.isSelected_eq reported now hlike]

theorem mark (t : Twins ν r r') (reported : List Conditions) (now : Instant) {n n' : Notification α}
    (hlike : n.Like n') : (r.mark reported now n).Like (r'.mark reported now n') := by
  unfold Reactor.mark
  rw [t.isSelected_eq reported now hlike, t.maskOf_eq reported now hlike]
  split
  · exact ⟨hlike.descriptor, hlike.interest, hlike.due, rfl, Iff.rfl, hlike.payload⟩
  · exact hlike

/-! ## The same happens to both -/

variable {r₁ r₁' : Reactor α}

theorem rests (t : Twins ν r r') (a : r.Rests r₁) (a' : r'.Rests r₁') : Twins ν r₁ r₁' where
  wellFormed := a.wellFormed t.wellFormed
  wellFormed' := a'.wellFormed t.wellFormed'
  active := by
    rw [a.active, a'.active]
    refine t.active.imp ?_
    rintro g g' ⟨x, x', hx, hx', hlike⟩
    exact ⟨x, x', (a.get? g).trans hx, (a'.get? g').trans hx', hlike⟩
  ready := by
    rw [a.ready, a'.ready]
    exact t.ready
  like h h' hp := by
    rw [a.notifications, a'.notifications]
    exact t.like h h' hp
  floor := by rw [a.floor, a'.floor, t.floor]

section

variable {request : Request α} {due : Option Instant} {h h' g g' : Handle}

/-- The group of the one stands for the group of the other. -/
theorem eq_iff_of_arms (a : r.Arms request due h g r₁) (a' : r'.Arms request due h' g' r₁')
    {k k' : Handle} (hk : SameGroup ν r r' k k') : k = g ↔ k' = g' := by
  obtain ⟨x, x', hx, hx', hlike⟩ := hk
  rw [← a.descriptor k x hx, ← a'.descriptor k' x' hx', hlike.descriptor]

/-- There was a group for the descriptor in both or in neither. -/
theorem contains_of_arms (t : Twins ν r r') (a : r.Arms request due h g r₁)
    (a' : r'.Arms request due h' g' r₁') :
    r.groups.contains g = r'.groups.contains g' := by
  -- a group is there if it is one of the active ones, which stand for each other
  have hany : r.active.any (fun k => decide (k = g)) = r'.active.any fun k => decide (k = g') :=
    any_eq_of_forall₂ t.active fun k k' hk => by
      rw [decide_eq_decide]
      exact eq_iff_of_arms a a' hk
  rw [Bool.eq_iff_iff] at hany ⊢
  simpa [t.wellFormed.mem_active, t.wellFormed'.mem_active] using hany

theorem sameGroup_of_arms (a : r.Arms request due h g r₁) (a' : r'.Arms request due h' g' r₁')
    {k k' : Handle} (hk : SameGroup ν r r' k k') : SameGroup (ν ++ [(h, h')]) r₁ r₁' k k' := by
  have hiff := eq_iff_of_arms a a' hk
  obtain ⟨x, x', hx, hx', hlike⟩ := hk
  have hpending : List.Forall₂ (Paired (ν ++ [(h, h')])) x.pending x'.pending :=
    hlike.pending.imp fun _ _ hp => hp.append _
  by_cases hkg : k = g
  · refine ⟨_, _, (a.get? k).trans (if_pos hkg), (a'.get? k').trans (if_pos (hiff.mp hkg)), rfl, ?_⟩
    rw [← hkg, ← hiff.mp hkg, pendingOf_of_get? hx, pendingOf_of_get? hx']
    exact List.rel_append hpending (.cons (paired_append_singleton ν h h') .nil)
  · refine ⟨x, x', ?_, ?_, hlike.descriptor, hpending⟩
    · rw [a.get?, if_neg hkg, hx]
    · rw [a'.get?, if_neg (mt hiff.mpr hkg), hx']

theorem arms (t : Twins ν r r') (a : r.Arms request due h g r₁) (a' : r'.Arms request due h' g' r₁')
    (hν : OneToOne (ν ++ [(h, h')])) : Twins (ν ++ [(h, h')]) r₁ r₁' where
  wellFormed := a.wellFormed t.wellFormed
  wellFormed' := a'.wellFormed t.wellFormed'
  active := by
    have hold := t.active.imp fun k k' hk => sameGroup_of_arms a a' hk
    rw [a.active, a'.active, t.contains_of_arms a a']
    split
    · exact hold
    · next hnew =>
      -- the group was opened now, in both, and holds the new notification alone
      have hnone' : r'.groups.get? g' = none := by simpa [Pool.contains] using hnew
      rw [← t.contains_of_arms a a'] at hnew
      have hnone : r.groups.get? g = none := by simpa [Pool.contains] using hnew
      refine List.rel_append hold (.cons ⟨_, _, (a.get? g).trans (if_pos rfl),
        (a'.get? g').trans (if_pos rfl), rfl, ?_⟩ .nil)
      rw [pendingOf_of_none hnone, pendingOf_of_none hnone']
      exact .cons (paired_append_singleton ν h h') .nil
  ready := by
    rw [a.ready, a'.ready]
    exact t.ready.imp fun _ _ hp => hp.append _
  like k k' hk := by
    have hiff := hν k k' h h' hk (paired_append_singleton ν h h')
    rw [a.notifications.get?, a'.notifications.get?]
    by_cases hkh : k = h
    · rw [if_pos hkh, if_pos (hiff.mp hkh)]
      exact .some (request.like_armed due g g')
    · rw [if_neg hkh, if_neg (mt hiff.mpr hkh)]
      -- any other pair was there before
      refine t.like k k' ((List.mem_append.mp hk).resolve_right ?_)
      simp [hkh]
  floor := by rw [a.floor, a'.floor, t.floor]

end

/-- The groups of both lose what stands for each other. -/
theorem active_of_thins (t : Twins ν r r') {keep keep' : Handle → Bool} (a : r.Thins keep r₁)
    (a' : r'.Thins keep' r₁') (hkeep : ∀ h h', Paired ν h h' → keep h = keep' h') :
    List.Forall₂ (SameGroup ν r₁ r₁') r₁.active r₁'.active := by
  rw [a.active, a'.active]
  refine forall₂_filter t.active ?_ ?_
  · rintro g g' ⟨x, x', hx, hx', hlike⟩
    rw [pendingOf_of_get? hx, pendingOf_of_get? hx']
    exact any_eq_of_forall₂ hlike.pending hkeep
  · rintro g g' ⟨x, x', hx, hx', hlike⟩ hany
    rw [pendingOf_of_get? hx] at hany
    have hany' : x'.pending.any keep' = true := by rwa [← any_eq_of_forall₂ hlike.pending hkeep]
    refine ⟨{ x with pending := x.pending.filter keep }, { x' with pending := x'.pending.filter keep' },
      ?_, ?_, hlike.descriptor, forall₂_filter hlike.pending hkeep fun _ _ hp _ => hp⟩
    · rw [a.get?, hx, Option.bind_some, Group.thin_of_any hany]
    · rw [a'.get?, hx', Option.bind_some, Group.thin_of_any hany']

theorem like_of_drops (t : Twins ν r r') (hν : OneToOne ν) {h h' : Handle} (hp : Paired ν h h')
    (a : r.notifications.Drops h r₁.notifications) (a' : r'.notifications.Drops h' r₁'.notifications)
    {k k' : Handle} (hk : Paired ν k k') :
    Option.Rel Notification.Like (r₁.notifications.get? k) (r₁'.notifications.get? k') := by
  have hiff := hν k k' h h' hk hp
  rw [a.get?, a'.get?]
  by_cases hkh : k = h
  · rw [if_pos hkh, if_pos (hiff.mp hkh)]
    exact .none
  · rw [if_neg hkh, if_neg (mt hiff.mpr hkh)]
    exact t.like k k' hk

theorem withdraws (t : Twins ν r r') (hν : OneToOne ν) {h h' : Handle} (hp : Paired ν h h')
    (a : r.Withdraws h r₁) (a' : r'.Withdraws h' r₁') : Twins ν r₁ r₁' := by
  have hkeep : ∀ k k', Paired ν k k' → decide (k ≠ h) = decide (k' ≠ h') := fun k k' hk =>
    decide_eq_decide.mpr (not_congr (hν k k' h h' hk hp))
  refine ⟨a.wellFormed t.wellFormed, a'.wellFormed t.wellFormed',
    t.active_of_thins a.thins a'.thins hkeep, ?_, fun k k' hk => ?_, ?_⟩
  · rw [a.ready, a'.ready]
    exact forall₂_filter t.ready hkeep fun _ _ hk _ => hk
  · exact t.like_of_drops hν hp a.notifications a'.notifications hk
  · rw [a.floor, a'.floor, t.floor]

theorem selects (t : Twins ν r r') {reported : List Conditions} {now : Instant}
    (a : r.Selects reported now r₁) (a' : r'.Selects reported now r₁') : Twins ν r₁ r₁' := by
  have hselects := fun h h' (hp : Paired ν h h') => t.selects_eq reported now hp
  refine ⟨a.wellFormed t.wellFormed, a'.wellFormed t.wellFormed', ?_, ?_, fun h h' hp => ?_, ?_⟩
  · exact t.active_of_thins a.thins a'.thins fun h h' hp => congrArg not (hselects h h' hp)
  · rw [a.ready, a'.ready]
    refine List.rel_append t.ready (List.rel_flatMap t.active ?_)
    rintro g g' ⟨x, x', hx, hx', hlike⟩
    dsimp only
    rw [pendingOf_of_get? hx, pendingOf_of_get? hx']
    exact forall₂_filter hlike.pending hselects fun _ _ hp _ => hp
  · rw [a.notifications.get?, a'.notifications.get?]
    rcases t.like_cases hp with ⟨hn, hn'⟩ | ⟨n, n', hn, hn', hlike⟩
    · rw [hn, hn']
      exact .none
    · rw [hn, hn']
      exact .some (t.mark reported now hlike)
  · rw [a.floor, a'.floor, t.floor]

/-- The first in the queue of the one stands for the first in the queue of the other. -/
theorem paired_of_takes (t : Twins ν r r') {h h' : Handle} {e e' : Event α} (a : r.Takes h e r₁)
    (a' : r'.Takes h' e' r₁') : Paired ν h h' ∧ List.Forall₂ (Paired ν) r₁.ready r₁'.ready := by
  have hready := t.ready
  rw [a.ready, a'.ready] at hready
  cases hready with
  | cons hp hrest => exact ⟨hp, hrest⟩

/-- The callbacks are given the same. -/
theorem event_of_takes (t : Twins ν r r') {h h' : Handle} {e e' : Event α} (a : r.Takes h e r₁)
    (a' : r'.Takes h' e' r₁') : e = e' := by
  obtain ⟨n, hn, -, htells⟩ := a.tells
  obtain ⟨n', hn', -, htells'⟩ := a'.tells
  have hlike := t.like h h' (t.paired_of_takes a a').1
  rw [hn, hn'] at hlike
  cases hlike with
  | some hlike =>
    have hpayload := htells.payload.symm.trans (hlike.payload.trans htells'.payload)
    rw [Option.some.injEq, Prod.mk.injEq] at hpayload
    have hdescriptor := htells.descriptor.trans (hlike.descriptor.trans htells'.descriptor.symm)
    have htriggered := htells.triggered.trans (hlike.triggered.trans htells'.triggered.symm)
    cases e
    cases e'
    simp_all

theorem takes (t : Twins ν r r') (hν : OneToOne ν) {h h' : Handle} {e e' : Event α}
    (a : r.Takes h e r₁) (a' : r'.Takes h' e' r₁') : Twins ν r₁ r₁' := by
  obtain ⟨hp, hready⟩ := t.paired_of_takes a a'
  refine ⟨a.wellFormed t.wellFormed, a'.wellFormed t.wellFormed', ?_, hready, fun k k' hk => ?_, ?_⟩
  · rw [a.active, a'.active]
    unfold SameGroup
    rw [a.groups, a'.groups]
    exact t.active
  · exact t.like_of_drops hν hp a.notifications a'.notifications hk
  · rw [a.floor, a'.floor, t.floor]

/-- The queues are empty in both, or the same is dispatched in both. -/
theorem takeReady_cases (t : Twins ν r r') :
    (r.ready = [] ∧ r'.ready = [] ∧ r.takeReady = none ∧ r'.takeReady = none) ∨
      ∃ h h' e r₁ r₁', r.takeReady = some (some e, r₁) ∧ r'.takeReady = some (some e, r₁') ∧
        r.Takes h e r₁ ∧ r'.Takes h' e r₁' := by
  have hlength := t.ready.length_eq
  rcases Reactor.takeReady_cases t.wellFormed with ⟨hq, hnone⟩ | ⟨h, e, r₁, hsome, htakes⟩
  · have hq' : r'.ready = [] := by
      rw [hq] at hlength
      exact List.length_eq_zero_iff.mp hlength.symm
    exact Or.inl ⟨hq, hq', hnone, takeReady_of_nil hq'⟩
  · rcases Reactor.takeReady_cases t.wellFormed' with ⟨hq', -⟩ | ⟨h', e', r₁', hsome', htakes'⟩
    · rw [hq', htakes.ready] at hlength
      cases hlength
    · obtain rfl := t.event_of_takes htakes htakes'
      exact Or.inr ⟨h, h', e, r₁, r₁', hsome, hsome', htakes, htakes'⟩

end Twins

end Reactor

/-! ## The same happens -/

/-- The same happens to two reactors, to what stands for each other. -/
inductive Occurrence.Like (ν : List (Handle × Handle)) :
    Option (Occurrence α) → Option (Occurrence α) → Prop where
  | none : Like ν Option.none Option.none
  | registered (h h' : Handle) (request : Request α) (due : Option Instant) :
      Like ν (some (.registered h request due)) (some (.registered h' request due))
  | cancelled {h h' : Handle} (hp : Paired ν h h') : Like ν (some (.cancelled h)) (some (.cancelled h'))
  | selected (reported : List Conditions) (now : Instant) :
      Like ν (some (.selected reported now)) (some (.selected reported now))
  | invoked {h h' : Handle} (hp : Paired ν h h') (e : Event α) :
      Like ν (some (.invoked h e)) (some (.invoked h' e))

/-- The pair of handles that come into use; none if none do. -/
def newPairs (o o' : Option (Occurrence α)) : List (Handle × Handle) :=
  (o.bind Occurrence.given?).toList.zip (o'.bind Occurrence.given?).toList

/-- **If the same happens to twins, they are twins afterwards.** -/
theorem Reactor.Effect.twins {ν : List (Handle × Handle)} {r r' r₁ r₁' : Reactor α}
    {o o' : Option (Occurrence α)} (t : Twins ν r r') (hlike : Occurrence.Like ν o o')
    (he : Effect o r r₁) (he' : Effect o' r' r₁') (hν : OneToOne (ν ++ newPairs o o')) :
    Twins (ν ++ newPairs o o') r₁ r₁' := by
  -- what happened tells the operation, so each case leaves one effect on either side
  cases hlike with
  | none =>
    rw [show newPairs (Option.none : Option (Occurrence α)) Option.none = [] from rfl,
      List.append_nil]
    cases he with
    | none rests =>
      cases he' with
      | none rests' => exact t.rests rests rests'
  | registered h h' request due =>
    cases he with
    | registered arms =>
      cases he' with
      | registered arms' => exact t.arms arms arms' hν
  | @cancelled h h' hp =>
    rw [show newPairs (some (.cancelled h : Occurrence α)) (some (.cancelled h')) = [] from rfl,
      List.append_nil] at hν ⊢
    cases he with
    | cancelled withdraws =>
      cases he' with
      | cancelled withdraws' => exact t.withdraws hν hp withdraws withdraws'
  | selected reported now =>
    rw [show newPairs (some (.selected reported now : Occurrence α)) (some (.selected reported now)) =
      [] from rfl, List.append_nil]
    cases he with
    | selected selects =>
      cases he' with
      | selected selects' => exact t.selects selects selects'
  | @invoked h h' hp e =>
    rw [show newPairs (some (.invoked h e)) (some (.invoked h' e)) = [] from rfl,
      List.append_nil] at hν ⊢
    cases he with
    | invoked takes =>
      cases he' with
      | invoked takes' => exact t.takes hν takes takes'

/-- Nothing corresponds to anything else at the start. -/
theorem Reactor.twins_of_initial {r r' : Reactor α} (hr : r.Initial) (hr' : r'.Initial)
    (hfloor : r.floor = r'.floor) : Twins [] r r' where
  wellFormed := wellFormed_of_initial hr
  wellFormed' := wellFormed_of_initial hr'
  active := by
    rw [active_of_initial hr, active_of_initial hr']
    exact .nil
  ready := by
    rw [ready_of_initial hr, ready_of_initial hr']
    exact .nil
  like _ _ hp := absurd hp (List.not_mem_nil)
  floor := hfloor

end EventLoop
