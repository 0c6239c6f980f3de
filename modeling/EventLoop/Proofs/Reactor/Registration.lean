import EventLoop.Proofs.Reactor.Ownership

/-!
# What a registration does

* `arms_of_arm` — a successful registration adds one notification, at the end of the group of its
  descriptor, which is opened if there is none (`Reactor.Arms`).
* `rests_of_arm` — a failed one leaves everything that a handle can show as it was (`Reactor.Rests`).

Both keep a reactor well-formed.
-/

namespace EventLoop

variable {α : Type}

/-- The notification that a request makes in a group. -/
def Request.armed (request : Request α) (due : Option Instant) (g : Handle) : Notification α :=
  { descriptor := request.descriptor
    interest := request.interest &&& .waitable
    due
    triggered := .none
    place := .group g
    payload := some (request.callback, request.arg) }

theorem Events.inter_waitable (e : Events) : e &&& .waitable &&& .waitable = e &&& .waitable := by
  show (⟨e.bits &&& 7 &&& 7⟩ : Events) = ⟨e.bits &&& 7⟩
  rw [UInt32.and_assoc]
  rfl

theorem Request.sound_armed (request : Request α) (due : Option Instant) (g : Handle) :
    (request.armed due g).Sound where
  payload := rfl
  interest := Events.inter_waitable request.interest
  place h := by cases h
  waiting _ := rfl
  selected h := by cases h

namespace Reactor

/-! ## What changes -/

/-- Nothing changes that a handle can show. Spare groups may change their order. -/
structure Rests (r r' : Reactor α) : Prop where
  groups : r'.groups.WellFormed
  get? : ∀ g, r'.groups.get? g = r.groups.get? g
  active : r'.active = r.active
  notifications : r'.notifications = r.notifications
  ready : r'.ready = r.ready
  floor : r'.floor = r.floor

/-- A notification is added at the end of a group, which is new if there was none for its descriptor. -/
structure Arms (r : Reactor α) (request : Request α) (due : Option Instant) (h g : Handle)
    (r' : Reactor α) : Prop where
  notifications : r.notifications.Adds h (request.armed due g) r'.notifications
  groups : r'.groups.WellFormed
  get? : ∀ k, r'.groups.get? k =
    if k = g then some { descriptor := request.descriptor, pending := r.pendingOf g ++ [h] }
    else r.groups.get? k
  /-- The group is the one with the descriptor of the request. -/
  descriptor : ∀ k group, r.groups.get? k = some group →
    (group.descriptor = request.descriptor ↔ k = g)
  active : r'.active = if r.groups.contains g = true then r.active else r.active ++ [g]
  ready : r'.ready = r.ready
  floor : r'.floor = r.floor

theorem WellFormed.rests_refl {r : Reactor α} (hr : r.WellFormed) : r.Rests r where
  groups := hr.groups
  get? _ := rfl
  active := rfl
  notifications := rfl
  ready := rfl
  floor := rfl

theorem Rests.wellFormed {r r' : Reactor α} (h : r.Rests r') (hr : r.WellFormed) : r'.WellFormed where
  groups := h.groups
  notifications := h.notifications ▸ hr.notifications
  active_nodup := h.active ▸ hr.active_nodup
  mem_active g := by
    rw [h.active, Pool.contains, h.get?]
    exact hr.mem_active g
  pending_ne_nil g group := by
    rw [h.get?]
    exact hr.pending_ne_nil g group
  pending_nodup g group := by
    rw [h.get?]
    exact hr.pending_nodup g group
  descriptor_inj g k a b := by
    rw [h.get?, h.get?]
    exact hr.descriptor_inj g k a b
  mem_pending g group k := by
    rw [h.get?, h.notifications]
    exact hr.mem_pending g group k
  group_of_place k n g := by
    rw [h.get?, h.notifications]
    exact hr.group_of_place k n g
  ready_nodup := h.ready ▸ hr.ready_nodup
  mem_ready k := by
    rw [h.ready, h.notifications]
    exact hr.mem_ready k
  sound k n := by
    rw [h.notifications]
    exact hr.sound k n

namespace Arms

variable {r r' : Reactor α} {request : Request α} {due : Option Instant} {h g : Handle}

theorem not_mem_pendingOf (a : r.Arms request due h g r') (hr : r.WellFormed) (k : Handle) :
    h ∉ r.pendingOf k := by
  intro hm
  obtain ⟨n, hn, -⟩ := hr.mem_pendingOf.mp hm
  rw [a.notifications.absent] at hn
  cases hn

theorem pendingOf_eq (a : r.Arms request due h g r') (k : Handle) :
    r'.pendingOf k = if k = g then r.pendingOf g ++ [h] else r.pendingOf k := by
  simp only [pendingOf, a.get?]
  split <;> rfl

/-- The lists of the groups say the same as the notifications. -/
theorem mem_pendingOf_iff (a : r.Arms request due h g r') (hr : r.WellFormed) (k x : Handle) :
    x ∈ r'.pendingOf k ↔ ∃ n, r'.notifications.get? x = some n ∧ n.place = .group k := by
  rw [a.pendingOf_eq, a.notifications.get?]
  by_cases hx : x = h
  · subst hx
    have hnot := a.not_mem_pendingOf hr
    by_cases hk : k = g
    · subst hk
      simp [Request.armed]
    · simp [hk, hnot k, Request.armed, Ne.symm hk]
  · rw [if_neg hx, ← hr.mem_pendingOf]
    by_cases hk : k = g
    · subst hk
      simp [hx]
    · rw [if_neg hk]

theorem wellFormed (a : r.Arms request due h g r') (hr : r.WellFormed) : r'.WellFormed where
  groups := a.groups
  notifications := a.notifications.wellFormed
  active_nodup := by
    rw [a.active]
    split
    · exact hr.active_nodup
    · next hg =>
      refine List.nodup_append.mpr ⟨hr.active_nodup, List.nodup_singleton g, ?_⟩
      rintro k hk x hx rfl
      exact hg ((hr.mem_active g).mp (List.mem_singleton.mp hx ▸ hk))
  mem_active k := by
    have hc : r'.groups.contains k = (decide (k = g) || r.groups.contains k) := by
      rw [Pool.contains, Pool.contains, a.get?]
      by_cases hk : k = g
      · simp [hk]
      · simp [hk]
    have hm := hr.mem_active k
    rw [hc, a.active]
    split
    · next hg =>
      rw [hm, Bool.or_eq_true, decide_eq_true_eq]
      exact ⟨Or.inr, fun hk => hk.elim (fun he => he ▸ hg) id⟩
    · rw [List.mem_append, List.mem_singleton, hm, Bool.or_eq_true, decide_eq_true_eq, or_comm]
  pending_ne_nil k group hk := by
    rw [a.get?] at hk
    split at hk
    · cases hk
      simp
    · exact hr.pending_ne_nil k group hk
  pending_nodup k group hk := by
    rw [a.get?] at hk
    split at hk
    · cases hk
      refine List.nodup_append.mpr ⟨hr.pendingOf_nodup g, List.nodup_singleton h, ?_⟩
      rintro x hx y hy rfl
      exact a.not_mem_pendingOf hr g (List.mem_singleton.mp hy ▸ hx)
    · exact hr.pending_nodup k group hk
  descriptor_inj k l b c hk hl he := by
    rw [a.get?] at hk hl
    -- two groups of one descriptor: both are the group of the request, or neither is
    split at hk
    · next hkg =>
      cases hk
      split at hl
      · next hlg => rw [hkg, hlg]
      · rw [hkg, (a.descriptor l c hl).mp he.symm]
    · split at hl
      · next hlg =>
        cases hl
        rw [hlg, (a.descriptor k b hk).mp he]
      · exact hr.descriptor_inj k l b c hk hl he
  mem_pending k group x hk := by
    rw [← pendingOf_of_get? hk]
    exact a.mem_pendingOf_iff hr k x
  group_of_place x n k hx hp := by
    rw [a.notifications.get?] at hx
    rw [a.get?]
    split at hx
    · cases hx
      cases hp
      exact ⟨_, if_pos rfl, rfl⟩
    · obtain ⟨group, hg, hd⟩ := hr.group_of_place x n k hx hp
      by_cases hk : k = g
      · subst hk
        exact ⟨_, if_pos rfl, ((a.descriptor k group hg).mpr rfl).symm.trans hd⟩
      · exact ⟨group, by rw [if_neg hk]; exact hg, hd⟩
  ready_nodup := a.ready ▸ hr.ready_nodup
  mem_ready x := by
    rw [a.ready, hr.mem_ready x, a.notifications.get?]
    by_cases hx : x = h
    · subst hx
      simp [a.notifications.absent, Request.armed]
    · rw [if_neg hx]
  sound x n hx := by
    rw [a.notifications.get?] at hx
    split at hx
    · cases hx
      exact request.sound_armed due g
    · exact hr.sound x n hx

end Arms

/-! ## The group of a descriptor -/

theorem findGroup_some {r : Reactor α} {d : Descriptor} {g : Handle} (h : r.findGroup d = some g) :
    ∃ group, r.groups.get? g = some group ∧ group.descriptor = d := by
  have hs := List.find?_some h
  simpa using (Option.any_eq_true _ _).mp hs

theorem findGroup_none {r : Reactor α} (hr : r.WellFormed) {d : Descriptor}
    (h : r.findGroup d = none) {g : Handle} {group : Group} (hg : r.groups.get? g = some group) :
    group.descriptor ≠ d := by
  have hn := List.find?_eq_none.mp h g (hr.mem_active_of_get? hg)
  simpa [hg] using hn

/-! ## The operation -/

/-- What adding to a given group comes to. -/
theorem attach_ok {memory : Memory} {r r' : Reactor α} {g h : Handle} {request : Request α}
    {due : Option Instant} (hn : r.notifications.WellFormed)
    (ha : r.attach memory g request due = .ok (h, r')) :
    ∃ group, r.groups.get? g = some group ∧
      r.notifications.Adds h (request.armed due g) r'.notifications ∧
      r'.groups = r.groups.modify g (fun group => { group with pending := group.pending ++ [h] }) ∧
      r'.active = r.active ∧ r'.ready = r.ready ∧ r'.floor = r.floor := by
  unfold attach at ha
  split at ha
  · cases ha
  · next group hg =>
    split at ha
    · split at ha
      · cases ha
      · next k notifications hacq =>
        obtain ⟨rfl, rfl⟩ := Prod.mk.inj (Except.ok.inj ha)
        obtain ⟨v, hv, hadds⟩ := Pool.adds_of_acquire hn hacq
        -- all but the reason is written over, and of that nothing is left
        have hblank := Notification.isBlank_of_isIdle hv
        refine ⟨group, hg, ?_, rfl, rfl, rfl, rfl⟩
        rw [Request.armed, ← hblank.triggered]
        exact hadds.modify fun n =>
          { n with
            descriptor := request.descriptor
            interest := request.interest &&& .waitable
            due
            place := .group g
            payload := some (request.callback, request.arg) }
    · cases ha

/-- A group just opened for a descriptor holds nothing yet. -/
theorem adds_of_open {memory : Memory} {p q : Pool Group} {g : Handle} (hp : p.WellFormed)
    (ha : p.acquire memory = .ok (g, q)) (d : Descriptor) :
    p.Adds g { descriptor := d, pending := [] } (q.modify g fun group => { group with descriptor := d }) := by
  obtain ⟨v, hv, hadds⟩ := Pool.adds_of_acquire hp ha
  rw [← Group.pending_of_isIdle hv]
  exact hadds.modify fun group => { group with descriptor := d }

/-- Adding to the group of the request's descriptor, which `o` has ready. -/
theorem arms_of_attach {memory : Memory} {r o r₁ : Reactor α} {g h : Handle} {request : Request α}
    {due : Option Instant} (hr : r.WellFormed) (ha : o.attach memory g request due = .ok (h, r₁))
    (hgroups : o.groups.WellFormed) (hactive : o.active = r.active)
    (hnotes : o.notifications = r.notifications) (hready : o.ready = r.ready)
    (hfloor : o.floor = r.floor)
    (hget : ∀ k, o.groups.get? k =
      if k = g then some { descriptor := request.descriptor, pending := r.pendingOf g }
      else r.groups.get? k)
    (hdesc : ∀ k group, r.groups.get? k = some group →
      (group.descriptor = request.descriptor ↔ k = g)) {active : List Handle}
    (hnew : active = if r.groups.contains g = true then r₁.active else r₁.active ++ [g])
    (counters : Counters) : r.Arms request due h g { r₁ with active, counters } := by
  obtain ⟨group, hg, hadds, hmodify, hact, hq, hf⟩ := attach_ok (hnotes ▸ hr.notifications) ha
  rw [hget, if_pos rfl] at hg
  refine ⟨hnotes ▸ hadds, ?_, ?_, hdesc, ?_, hq.trans hready, hf.trans hfloor⟩
  · show r₁.groups.WellFormed
    rw [hmodify]
    exact hgroups.modify g _
  · intro k
    show r₁.groups.get? k = _
    rw [hmodify, Pool.get?_modify, hget, hget, if_pos rfl]
    split <;> rfl
  · rw [← hactive, ← hact]
    exact hnew

/-- What a successful registration does. -/
theorem arms_of_arm {memory : Memory} {r r' : Reactor α} {request : Request α} {due : Option Instant}
    {h : Handle} (hr : r.WellFormed) (ha : r.arm memory request due = (.ok h, r')) :
    ∃ g, r.Arms request due h g r' := by
  unfold arm at ha
  split at ha
  · next g hfind =>
    obtain ⟨group, hg, hd⟩ := findGroup_some hfind
    split at ha
    · next k r₁ hatt =>
      obtain ⟨he, rfl⟩ := Prod.mk.inj ha
      cases he
      refine ⟨g, arms_of_attach hr hatt hr.groups rfl rfl rfl rfl ?_ ?_ ?_ _⟩
      · intro k
        split
        · next hk => rw [hk, hg, pendingOf_of_get? hg, ← hd]
        · rfl
      · intro k c hk
        constructor
        · exact fun he => hr.descriptor_inj k g c group hk hg (he.trans hd.symm)
        · rintro rfl
          rw [hg] at hk
          cases hk
          exact hd
      · rw [if_pos (Pool.contains_eq_true.mpr ⟨group, hg⟩)]
    · cases (Prod.mk.inj ha).1
  · next hfind =>
    split at ha
    · split at ha
      · cases (Prod.mk.inj ha).1
      · next g groups hacq =>
        dsimp only at ha
        split at ha
        · next k r₁ hatt =>
          obtain ⟨he, rfl⟩ := Prod.mk.inj ha
          cases he
          have hopen := adds_of_open hr.groups hacq request.descriptor
          refine ⟨g, arms_of_attach hr hatt hopen.wellFormed rfl rfl rfl rfl ?_ ?_ ?_ _⟩
          · intro k
            rw [pendingOf_of_none hopen.absent]
            exact hopen.get? k
          · intro k c hk
            constructor
            · exact fun he => absurd he (findGroup_none hr hfind hk)
            · rintro rfl
              rw [hopen.absent] at hk
              cases hk
          · rw [if_neg (by simp [Pool.contains, hopen.absent])]
        · cases (Prod.mk.inj ha).1
    · cases (Prod.mk.inj ha).1

/-- What a failed registration does. -/
theorem rests_of_arm {memory : Memory} {r r' : Reactor α} {request : Request α} {due : Option Instant}
    {e : ReactorError} (hr : r.WellFormed) (ha : r.arm memory request due = (.error e, r')) :
    r.Rests r' := by
  unfold arm at ha
  split at ha
  · split at ha
    · cases (Prod.mk.inj ha).1
    · cases (Prod.mk.inj ha).2
      exact hr.rests_refl
  · split at ha
    · split at ha
      · cases (Prod.mk.inj ha).2
        exact hr.rests_refl
      · next g groups hacq =>
        dsimp only at ha
        split at ha
        · cases (Prod.mk.inj ha).1
        · -- the group opened for the request is given back
          cases (Prod.mk.inj ha).2
          have hopen := adds_of_open hr.groups hacq request.descriptor
          have hdrop := Pool.drops_of_discard hopen.wellFormed
            (Pool.contains_eq_true.mpr ⟨_, (hopen.get? g).trans (if_pos rfl)⟩)
          refine ⟨hdrop.wellFormed, ?_, rfl, rfl, rfl, rfl⟩
          intro k
          rw [hdrop.get?, hopen.get?]
          split
          · next hk => rw [hk, hopen.absent]
          · rfl
    · cases (Prod.mk.inj ha).2
      exact hr.rests_refl

end Reactor

end EventLoop
