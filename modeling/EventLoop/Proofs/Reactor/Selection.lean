import EventLoop.Proofs.Reactor.Readiness
import EventLoop.Proofs.Reactor.Withdrawal

/-!
# What a tick selects

After its wait a tick goes through the groups, marks notifications, and then retires groups; the marks are
made one by one in a pool that changes on the way. `Reactor.Selects` says the same in one go: each
notification is judged by itself (`Reactor.maskOf`), the selected ones go to the ready queue group after
group, and all others stay as they are.

* `sift_eq` — the members of one group.
* `sifted_foldl` — all groups, by a step from each to the next.
* `selects_of_collect` — the whole selection, retirement included.
-/

namespace EventLoop

variable {α : Type}

namespace Events

theorem inter_self_right (a b : Events) : a &&& b &&& b = a &&& b := by
  show (⟨a.bits &&& b.bits &&& b.bits⟩ : Events) = ⟨a.bits &&& b.bits⟩
  rw [UInt32.and_assoc, UInt32.and_self]

end Events

namespace Reactor

/-! ## Judging one notification -/

/-- Why a tick selects a notification: the part of its interest that came about on its descriptor; failing
that, that it is due. None of the events if it is not selected. -/
def maskOf (r : Reactor α) (reported : List Conditions) (now : Instant) (n : Notification α) : Events :=
  if !(r.readiness reported n.descriptor &&& n.interest).isEmpty then
    r.readiness reported n.descriptor &&& n.interest
  else if n.due.any (·.le now) then .timeout
  else .none

theorem trigger_eq_maskOf (r : Reactor α) (reported : List Conditions) (now : Instant)
    (n : Notification α) : trigger (r.readiness reported n.descriptor) now n = r.maskOf reported now n := by
  unfold trigger maskOf
  dsimp only
  cases (r.readiness reported n.descriptor &&& n.interest).isEmpty <;> rfl

/-- Is a notification selected? One that was selected before is not looked at. -/
def isSelected (r : Reactor α) (reported : List Conditions) (now : Instant) (n : Notification α) : Bool :=
  decide (n.place ≠ .ready) && !(r.maskOf reported now n).isEmpty

/-- Does a handle name a notification that is selected? -/
def selects (r : Reactor α) (reported : List Conditions) (now : Instant) (h : Handle) : Bool :=
  (r.notifications.get? h).any (r.isSelected reported now)

/-- A notification after the tick. -/
def mark (r : Reactor α) (reported : List Conditions) (now : Instant) (n : Notification α) :
    Notification α :=
  if r.isSelected reported now n then { n with triggered := r.maskOf reported now n, place := .ready }
  else n

/-- What one tick does, once its wait has reported and the clock was read again. -/
structure Selects (r : Reactor α) (reported : List Conditions) (now : Instant) (r' : Reactor α) : Prop where
  notifications : r.notifications.Writes (fun _ => r.mark reported now) r'.notifications
  thins : r.Thins (fun h => !r.selects reported now h) r'
  ready : r'.ready =
    r.ready ++ r.active.flatMap fun g => (r.pendingOf g).filter (r.selects reported now)
  floor : r'.floor = r.floor

/-! ## The members of one group -/

/-- What one pass writes to a selected notification. -/
def marked (fired : Events) (now : Instant) (n : Notification α) : Notification α :=
  { n with triggered := trigger fired now n, place := .ready }

theorem sift_cons_kept {fired : Events} {now : Instant} {p : Pool (Notification α)} {h : Handle}
    {rest : List Handle} {n : Notification α} (hn : p.get? h = some n)
    (ht : (trigger fired now n).isEmpty = true) :
    sift fired now (h :: rest) p =
      (h :: (sift fired now rest p).1, (sift fired now rest p).2.1, (sift fired now rest p).2.2) := by
  simp [sift, hn, ht]

theorem sift_cons_selected {fired : Events} {now : Instant} {p : Pool (Notification α)} {h : Handle}
    {rest : List Handle} {n : Notification α} (hn : p.get? h = some n)
    (ht : ¬(trigger fired now n).isEmpty = true) :
    sift fired now (h :: rest) p =
      let q := p.modify h fun m => { m with triggered := trigger fired now n, place := .ready }
      ((sift fired now rest q).1, h :: (sift fired now rest q).2.1, (sift fired now rest q).2.2) := by
  simp [sift, hn, ht]

/-- One pass over distinct live handles. Which of them are selected is settled beforehand (`chosen`),
since the marks made on the way concern other handles. -/
theorem sift_eq (fired : Events) (now : Instant) (chosen : Handle → Bool) :
    ∀ (l : List Handle) (p : Pool (Notification α)), p.WellFormed → l.Nodup →
      (∀ h ∈ l, ∃ n, p.get? h = some n ∧ chosen h = !(trigger fired now n).isEmpty) →
      (sift fired now l p).1 = l.filter (fun h => !chosen h) ∧
      (sift fired now l p).2.1 = l.filter chosen ∧
      p.Writes (fun h n => if h ∈ l ∧ chosen h = true then marked fired now n else n)
        (sift fired now l p).2.2
  | [], p, hp, _, _ => ⟨rfl, rfl, (Pool.Writes.refl hp).congr fun h n _ => by simp⟩
  | h :: rest, p, hp, hnd, hlive => by
    obtain ⟨n, hn, hc⟩ := hlive h List.mem_cons_self
    obtain ⟨hrest, hnd'⟩ := List.nodup_cons.mp hnd
    by_cases ht : (trigger fired now n).isEmpty = true
    · have hch : chosen h = false := by rw [hc, ht]; rfl
      obtain ⟨h1, h2, h3⟩ := sift_eq fired now chosen rest p hp hnd' fun k hk => hlive k (List.mem_cons_of_mem _ hk)
      rw [sift_cons_kept hn ht]
      refine ⟨?_, ?_, h3.congr fun k v _ => ?_⟩
      · rw [List.filter_cons_of_pos (by simp [hch]), h1]
      · rw [List.filter_cons_of_neg (by simp [hch]), h2]
      · by_cases hk : k = h
        · simp [hk, hch]
        · simp [hk]
    · have hch : chosen h = true := by rw [hc]; simpa using ht
      have hw := Pool.writes_of_modify hp h fun m =>
        { m with triggered := trigger fired now n, place := .ready }
      -- the mark just made is on another notification than those still to come
      obtain ⟨h1, h2, h3⟩ := sift_eq fired now chosen rest _ hw.wellFormed hnd' fun k hk => by
        obtain ⟨m, hm, hcm⟩ := hlive k (List.mem_cons_of_mem _ hk)
        have hkh : k ≠ h := fun he => hrest (he ▸ hk)
        exact ⟨m, by rw [hw.get?, hm, Option.map_some, if_neg hkh], hcm⟩
      rw [sift_cons_selected hn ht]
      dsimp only
      refine ⟨?_, ?_, (hw.trans h3).congr fun k v hv => ?_⟩
      · rw [List.filter_cons_of_neg (by simp [hch]), h1]
      · rw [List.filter_cons_of_pos hch, h2]
      · by_cases hk : k = h
        · subst hk
          rw [hn] at hv
          cases hv
          simp [hch, hrest, marked]
        · simp [hk]

/-! ## Group after group -/

/-- The state of a selection that has been through some of the groups. -/
structure Sifted (r : Reactor α) (reported : List Conditions) (now : Instant) (done : List Handle)
    (s : Reactor α) : Prop where
  groups : s.groups.WellFormed
  get? : ∀ g, s.groups.get? g = (r.groups.get? g).map fun group =>
    if g ∈ done then
      { group with pending := group.pending.filter fun h => !r.selects reported now h }
    else group
  active : s.active = r.active
  notifications : r.notifications.Writes
    (fun _ n => if ∃ g ∈ done, n.place = .group g then r.mark reported now n else n) s.notifications
  ready : s.ready = r.ready ++ done.flatMap fun g => (r.pendingOf g).filter (r.selects reported now)
  floor : s.floor = r.floor

theorem sifted_nil {r : Reactor α} (hr : r.WellFormed) (reported : List Conditions) (now : Instant) :
    r.Sifted reported now [] r where
  groups := hr.groups
  get? g := by simp
  active := rfl
  notifications := (Pool.Writes.refl hr.notifications).congr fun h n _ => by simp
  ready := by simp
  floor := rfl

/-- A notification that waits in a group is judged by what came about for the group. -/
theorem selects_eq_of_mem {r : Reactor α} (hr : r.WellFormed) (reported : List Conditions)
    (now : Instant) {g h : Handle} {group : Group} (hg : r.groups.get? g = some group)
    (hh : h ∈ group.pending) :
    ∃ n, r.notifications.get? h = some n ∧ n.place = .group g ∧
      trigger (r.readiness reported group.descriptor) now n = r.maskOf reported now n ∧
      r.selects reported now h = !(r.maskOf reported now n).isEmpty := by
  obtain ⟨n, hn, hp⟩ := (hr.mem_pending g group h hg).mp hh
  obtain ⟨other, ho, hd⟩ := hr.group_of_place h n g hn hp
  rw [hg] at ho
  cases ho
  refine ⟨n, hn, hp, by rw [hd, trigger_eq_maskOf], ?_⟩
  unfold selects isSelected
  rw [hn, Option.any_some, hp]
  simp

/-- The step from one group to the next. -/
theorem sifted_selectIn {r s : Reactor α} (hr : r.WellFormed) {reported : List Conditions}
    {now : Instant} {done : List Handle} {g : Handle} (hs : r.Sifted reported now done s)
    (hg : g ∈ r.active) (hdone : g ∉ done) :
    r.Sifted reported now (done ++ [g])
      (selectIn now s g (r.readiness reported (r.descriptorOf g))) := by
  obtain ⟨group, hgroup⟩ := hr.exists_group hg
  have hsgroup : s.groups.get? g = some group := by
    rw [hs.get?, hgroup, Option.map_some, if_neg hdone]
  -- the members of this group were not written to while the groups before it were gone through
  have hkeep : ∀ n : Notification α, n.place = .group g → ¬∃ k ∈ done, n.place = .group k := by
    rintro n hp ⟨k, hk, hq⟩
    rw [hp] at hq
    cases hq
    exact hdone hk
  obtain ⟨h1, h2, h3⟩ := sift_eq (r.readiness reported group.descriptor) now
    (r.selects reported now) group.pending s.notifications hs.notifications.wellFormed
    (hr.pending_nodup g group hgroup) fun h hh => by
      obtain ⟨n, hn, hp, ht, hc⟩ := selects_eq_of_mem hr reported now hgroup hh
      exact ⟨n, by rw [hs.notifications.get?, hn, Option.map_some, if_neg (hkeep n hp)], by rw [hc, ht]⟩
  rw [descriptorOf_of_get? hgroup]
  unfold selectIn
  rw [hsgroup]
  dsimp only
  rw [h1, h2]
  have hmod := hs.groups.modify g fun c =>
    { c with pending := group.pending.filter fun h => !r.selects reported now h }
  refine ⟨hmod, fun k => ?_, hs.active, (hs.notifications.trans h3).congr fun h n hn => ?_, ?_,
    hs.floor⟩
  · show Pool.get? _ k = _
    rw [Pool.get?_modify]
    by_cases hk : k = g
    · simp [hk, hsgroup, hgroup]
    · simp [hk, hs.get?]
  · by_cases hp : n.place = .group g
    · have hmem : h ∈ group.pending := (hr.mem_pending g group h hgroup).mpr ⟨n, hn, hp⟩
      obtain ⟨m, hm, -, ht, hc⟩ := selects_eq_of_mem hr reported now hgroup hmem
      rw [hn] at hm
      cases hm
      have hsel : r.selects reported now h = r.isSelected reported now n := by simp [selects, hn]
      have hlast : ∃ k ∈ done ++ [g], n.place = .group k := ⟨g, by simp, hp⟩
      rw [if_neg (hkeep n hp), if_pos hlast]
      simp only [hmem, true_and, hsel, mark, marked, ht]
    · have hmem : h ∉ group.pending := by
        intro hm
        obtain ⟨m, hm, hq⟩ := (hr.mem_pending g group h hgroup).mp hm
        rw [hn] at hm
        cases hm
        exact hp hq
      simp [hmem, hp]
  · rw [hs.ready, List.flatMap_append, List.append_assoc, List.flatMap_singleton,
      pendingOf_of_get? hgroup]

/-- The induction goes over the groups that are still to be gone through. -/
theorem sifted_foldl {r : Reactor α} (hr : r.WellFormed) (reported : List Conditions) (now : Instant) :
    ∀ (l done : List Handle) (s : Reactor α), r.Sifted reported now done s → l ⊆ r.active →
      (done ++ l).Nodup →
      r.Sifted reported now (done ++ l)
        ((l.map fun g => (g, r.readiness reported (r.descriptorOf g))).foldl
          (fun s p => selectIn now s p.1 p.2) s)
  | [], done, s, hs, _, _ => by simpa using hs
  | g :: rest, done, s, hs, hsub, hnd => by
    rw [List.append_cons] at hnd ⊢
    have hg : g ∉ done := fun hm =>
      (List.nodup_append.mp (List.nodup_append.mp hnd).1).2.2 g hm g List.mem_cons_self rfl
    exact sifted_foldl hr reported now rest (done ++ [g]) _
      (sifted_selectIn hr hs (hsub List.mem_cons_self) hg)
      (fun k hk => hsub (List.mem_cons_of_mem _ hk)) hnd

/-! ## Retirement -/

/-- Does a group still hold a notification? -/
def isInhabited (group : Group) : Bool := !group.pending.isEmpty

theorem retire_cons_inhabited {p : Pool Group} {g : Handle} {rest : List Handle}
    (h : (p.get? g).any isInhabited = true) :
    retire (g :: rest) p = (g :: (retire rest p).1, (retire rest p).2) := by
  obtain ⟨group, hg, hi⟩ := (Option.any_eq_true _ _).mp h
  have hne : group.pending.isEmpty = false := by simpa [isInhabited] using hi
  simp [retire, hg, hne]

theorem retire_cons_empty {p : Pool Group} {g : Handle} {rest : List Handle}
    (h : ¬(p.get? g).any isInhabited = true) : retire (g :: rest) p = retire rest (p.discard g) := by
  cases hg : p.get? g with
  | none => simp [retire, hg]
  | some group =>
    have he : group.pending.isEmpty = true := by simpa [hg, isInhabited] using h
    simp [retire, hg, he]

/-- The groups without notifications go, the others stay in order. -/
theorem retire_eq :
    ∀ (l : List Handle) (p : Pool Group), p.WellFormed →
      (retire l p).1 = l.filter (fun g => (p.get? g).any isInhabited) ∧
      (retire l p).2.WellFormed ∧
      ∀ g, (retire l p).2.get? g = if g ∈ l then (p.get? g).filter isInhabited else p.get? g
  | [], p, hp => ⟨rfl, hp, fun g => by simp [retire]⟩
  | g :: rest, p, hp => by
    by_cases hany : (p.get? g).any isInhabited = true
    · obtain ⟨h1, h2, h3⟩ := retire_eq rest p hp
      have hself : (p.get? g).filter isInhabited = p.get? g := by
        obtain ⟨group, hg, hi⟩ := (Option.any_eq_true _ _).mp hany
        simp [hg, Option.filter, hi]
      rw [retire_cons_inhabited hany]
      refine ⟨?_, h2, fun k => ?_⟩
      · simp only [List.filter_cons, hany, if_true, h1]
      · rw [h3]
        by_cases hk : k = g
        · simp [hk, hself]
        · simp [hk]
    · obtain ⟨hwf, hget⟩ := Pool.get?_discard hp g
      obtain ⟨h1, h2, h3⟩ := retire_eq rest (p.discard g) hwf
      have hnone : (p.get? g).filter isInhabited = none := by
        cases hg : p.get? g with
        | none => rfl
        | some group => simpa [hg] using hany
      rw [retire_cons_empty hany]
      refine ⟨?_, h2, fun k => ?_⟩
      · simp only [List.filter_cons, hany, h1]
        refine List.filter_congr fun k _ => ?_
        rw [hget]
        split
        · next hk => rw [hk, eq_false_of_ne_true hany, Option.any_none]
        · rfl
      · rw [h3, hget]
        by_cases hk : k = g
        · simp [hk, hnone]
        · simp [hk]

/-- Keeping only groups that hold something, after members were taken out. -/
theorem filter_isInhabited (keep : Handle → Bool) (group : Group) :
    (some { group with pending := group.pending.filter keep }).filter isInhabited =
      group.thin keep := by
  unfold Group.thin isInhabited
  by_cases he : (group.pending.filter keep).isEmpty = true
  · rw [if_pos he, Option.filter, if_neg (by simp [he])]
  · rw [if_neg he, Option.filter, if_pos (by simpa using he)]

theorem any_isInhabited (keep : Handle → Bool) (group : Group) :
    (some { group with pending := group.pending.filter keep }).any isInhabited =
      group.pending.any keep := by
  rw [Option.any_some, isInhabited, Bool.eq_iff_iff]
  simp

/-! ## The whole selection -/

/-- A notification that waits is judged, one in the ready queue is left alone. -/
theorem mark_of_get? {r : Reactor α} (hr : r.WellFormed) (reported : List Conditions) (now : Instant)
    {h : Handle} {n : Notification α} (hn : r.notifications.get? h = some n) :
    (if ∃ g ∈ r.active, n.place = .group g then r.mark reported now n else n) =
      r.mark reported now n := by
  split
  · rfl
  · next hnot =>
    cases hp : n.place with
    | spare => exact absurd hp (hr.sound h n hn).place
    | ready => simp [mark, isSelected, hp]
    | group g =>
      obtain ⟨group, hg, -⟩ := hr.group_of_place h n g hn hp
      exact absurd ⟨g, hr.mem_active_of_get? hg, hp⟩ hnot

/-- **What a tick selects.** -/
theorem selects_of_collect {r : Reactor α} (hr : r.WellFormed) (reported : List Conditions)
    (now : Instant) : r.Selects reported now (r.collect reported now) := by
  have hs := sifted_foldl hr reported now r.active [] r (sifted_nil hr reported now)
    (List.Subset.refl _) hr.active_nodup
  rw [List.nil_append, ← firedOf_active hr] at hs
  obtain ⟨h1, h2, h3⟩ := retire_eq _ _ hs.groups
  unfold collect
  refine ⟨hs.notifications.congr fun h n hn => mark_of_get? hr reported now hn, ⟨h2, fun g => ?_, ?_⟩,
    hs.ready, hs.floor⟩
  · show Pool.get? (retire _ _).2 g = _
    rw [h3, hs.active, hs.get?]
    cases hg : r.groups.get? g with
    | none => simp
    | some group =>
      have hmem : g ∈ r.active := hr.mem_active_of_get? hg
      rw [if_pos hmem, Option.map_some, if_pos hmem, filter_isInhabited]
      rfl
  · show (retire _ _).1 = _
    rw [h1, hs.active]
    refine List.filter_congr fun g hg => ?_
    obtain ⟨group, hgroup⟩ := hr.exists_group hg
    rw [hs.get?, hgroup, Option.map_some, if_pos hg, any_isInhabited, pendingOf_of_get? hgroup]

/-- A marked notification has its reason. -/
theorem sound_mark {r : Reactor α} {reported : List Conditions} {now : Instant} {n : Notification α}
    (hn : n.Sound) : (r.mark reported now n).Sound := by
  unfold mark
  split
  · next hsel =>
    have hne : (r.maskOf reported now n).isEmpty = false := by
      simp only [isSelected, Bool.and_eq_true, Bool.not_eq_true'] at hsel
      exact hsel.2
    refine ⟨hn.payload, hn.interest, Place.noConfusion, fun h => absurd rfl h, fun _ => ?_⟩
    -- a mask that is not empty is a part of the interest, or the notification was due
    show r.maskOf reported now n = _ ∧ _ ∨ r.maskOf reported now n ≠ _ ∧ _
    have hne' : r.maskOf reported now n ≠ .none := by
      intro he
      rw [he] at hne
      cases hne
    unfold maskOf at hne' ⊢
    split
    · next hmet =>
      rw [if_pos hmet] at hne'
      exact Or.inr ⟨hne', Events.inter_self_right _ _⟩
    · next hmet =>
      rw [if_neg hmet] at hne'
      split
      · next hdue =>
        obtain ⟨u, hu, -⟩ := (Option.any_eq_true _ _).mp hdue
        exact Or.inl ⟨rfl, by rw [hu]; rfl⟩
      · next hdue =>
        rw [if_neg hdue] at hne'
        exact absurd rfl hne'
  · exact hn

theorem place_mark (r : Reactor α) (reported : List Conditions) (now : Instant) (n : Notification α) :
    (r.mark reported now n).place = if r.isSelected reported now n then .ready else n.place := by
  unfold mark
  split <;> rfl

theorem descriptor_mark (r : Reactor α) (reported : List Conditions) (now : Instant)
    (n : Notification α) : (r.mark reported now n).descriptor = n.descriptor := by
  unfold mark
  split <;> rfl

theorem selects_of_get? {r : Reactor α} {reported : List Conditions} {now : Instant} {h : Handle}
    {n : Notification α} (hn : r.notifications.get? h = some n) :
    r.selects reported now h = r.isSelected reported now n := by
  rw [selects, hn, Option.any_some]

namespace Selects

variable {r r' : Reactor α} {reported : List Conditions} {now : Instant}

/-- The queue afterwards: the notifications that stood in it, then the selected ones in order. -/
theorem ready_eq (s : r.Selects reported now r') :
    r'.ready = r.ready ++ (r.active.flatMap r.pendingOf).filter (r.selects reported now) := by
  rw [s.ready, List.filter_flatMap]

theorem mem_ready (s : r.Selects reported now r') (hr : r.WellFormed) {h : Handle} :
    h ∈ r'.ready ↔ h ∈ r.ready ∨ r.selects reported now h = true := by
  rw [s.ready_eq, List.mem_append, List.mem_filter, List.mem_flatMap]
  refine or_congr_right ⟨And.right, fun hsel => ⟨?_, hsel⟩⟩
  obtain ⟨n, hn, hs⟩ := (Option.any_eq_true _ _).mp hsel
  have hnot : n.place ≠ .ready := by
    simp only [isSelected, Bool.and_eq_true, decide_eq_true_eq] at hs
    exact hs.1
  cases hp : n.place with
  | spare => exact absurd hp (hr.sound h n hn).place
  | ready => exact absurd hp hnot
  | group g =>
    obtain ⟨group, hg, -⟩ := hr.group_of_place h n g hn hp
    exact ⟨g, hr.mem_active_of_get? hg, hr.mem_pendingOf.mpr ⟨n, hn, hp⟩⟩

/-- A selection keeps the records in agreement. -/
theorem wellFormed (s : r.Selects reported now r') (hr : r.WellFormed) : r'.WellFormed := by
  refine hr.of_thins s.thins s.notifications.wellFormed ?_ ?_ ?_ ?_ ?_
  · intro g h
    rw [s.notifications.get?]
    cases hn : r.notifications.get? h with
    | none => simp
    | some n =>
      rw [selects_of_get? hn]
      simp only [Option.map_some, Option.some.injEq, exists_eq_left', place_mark]
      cases r.isSelected reported now n <;> simp
  · intro h n' hn'
    rw [s.notifications.get?] at hn'
    obtain ⟨n, hn, rfl⟩ := Option.map_eq_some_iff.mp hn'
    exact ⟨n, hn, descriptor_mark r reported now n⟩
  · rw [s.ready_eq]
    exact (List.nodup_append_comm.mp hr.held_nodup).sublist
      (List.Sublist.append_left List.filter_sublist _)
  · intro h
    rw [s.mem_ready hr, hr.mem_ready, s.notifications.get?]
    cases hn : r.notifications.get? h with
    | none => simp [selects, hn]
    | some n =>
      rw [selects_of_get? hn]
      simp only [Option.map_some, Option.some.injEq, exists_eq_left', place_mark]
      cases r.isSelected reported now n <;> simp
  · intro h n' hn'
    rw [s.notifications.get?] at hn'
    obtain ⟨n, hn, rfl⟩ := Option.map_eq_some_iff.mp hn'
    exact sound_mark (hr.sound h n hn)

end Selects

end Reactor

end EventLoop
