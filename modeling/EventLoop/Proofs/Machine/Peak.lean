import EventLoop.Proofs.Machine.History
import EventLoop.Proofs.Machine.Transcript
import EventLoop.Proofs.Reactor.Capacity
import Mathlib.Algebra.BigOperators.Intervals
import Mathlib.Tactic.IntervalCases

/-!
# No slot too many

How many slots the pools of a reactor have is told by how many were in use at most. A run that puts into the
place of each invoked notification at most one on the same descriptor needs no further slots.

* `fills_of_step` — what one step does to both pools.
* `Machine.peak` — the most of something at any moment so far.
* `Machine.Rearms` — from some moment on, notifications are only put in the place of invoked ones.
* `allocates_to_the_peak` — the numbers of slots, at every moment of every run.
-/

namespace EventLoop

open scoped Finset

variable {σ α : Type}

/-! ## The operations of a system -/

namespace Host

variable {host : Host σ α} {y : System σ α}

theorem notifications_fill_of_register (hy : y.reactor.WellFormed) (request : Request α) :
    y.reactor.notifications.Fills (host.register y request).2.reactor.notifications := by
  obtain ⟨c, hc⟩ := host.dueTime_reactor y request.timeout
  unfold register
  rcases hdue : host.dueTime y request.timeout with ⟨e | due, y₁⟩
  · rw [hdue] at hc
    dsimp only at hc ⊢
    rw [hc]
    exact Pool.fills_of_capacity_eq rfl
  · rw [hdue] at hc
    dsimp only at hc ⊢
    rw [hc]
    have hfill := Reactor.notifications_fill_of_arm (host.memory y₁.outside) (hy.recount c)
      request due
    rcases harm : (y.reactor.recount c).arm (host.memory y₁.outside) request due with ⟨e | h, r⟩
    · rwa [harm] at hfill
    · rwa [harm] at hfill

/-- A registration that is not refused memory fills the groups, too. -/
theorem groups_fill_of_register (hy : y.reactor.WellFormed) {request : Request α}
    (hgranted : (host.register y request).1 ≠ .error .outOfMemory) :
    y.reactor.groups.Fills (host.register y request).2.reactor.groups := by
  obtain ⟨c, hc⟩ := host.dueTime_reactor y request.timeout
  unfold register at hgranted ⊢
  rcases hdue : host.dueTime y request.timeout with ⟨e | due, y₁⟩
  · rw [hdue] at hc
    dsimp only at hc ⊢
    rw [hc]
    exact Pool.fills_of_capacity_eq rfl
  · rw [hdue] at hc hgranted
    dsimp only at hc hgranted ⊢
    rw [hc] at hgranted ⊢
    rcases harm : (y.reactor.recount c).arm (host.memory y₁.outside) request due with ⟨e | h, r⟩
    · rw [harm, Reactor.error_of_arm (hy.recount c) harm] at hgranted
      exact absurd rfl hgranted
    · show (y.reactor.recount c).groups.Fills r.groups
      exact Reactor.groups_fill_of_arm (hy.recount c) harm

theorem sameSlots_cancel (h : Handle) : y.reactor.SameSlots (host.cancel y h).2.reactor := by
  have hsame := y.reactor.sameSlots_cancel h
  unfold cancel
  rcases hcancel : y.reactor.cancel h with ⟨e | u, r⟩
  · rwa [hcancel] at hsame
  · rwa [hcancel] at hsame

theorem sameSlots_select : y.reactor.SameSlots (host.select y).2.reactor := by
  rcases host.select_cases y with ⟨reported, now, c, -, -, hr⟩ | ⟨e, c, -, -, hr⟩
  · have hsame := Reactor.sameSlots_collect (y.reactor.recount c) reported now
    rw [hr]
    exact ⟨hsame.groups, hsame.notifications⟩
  · rw [hr]
    exact ⟨rfl, rfl⟩

end Host

/-! ## Steps -/

namespace Machine

variable {host : Host σ α} {m m' : Machine σ α}

/-- **A step takes new slots only when all are in use**, of groups unless memory is refused. Only a
registration takes any. -/
theorem fills_of_step (hm : m.system.reactor.WellFormed) (hs : m.step host = some m') :
    m.system.reactor.notifications.Fills m'.system.reactor.notifications ∧
      (m.answer host ≠ some (.registered (.error .outOfMemory)) →
        m.system.reactor.groups.Fills m'.system.reactor.groups) := by
  have hsame : m.system.reactor.SameSlots m'.system.reactor →
      m.system.reactor.notifications.Fills m'.system.reactor.notifications ∧
        (m.answer host ≠ some (.registered (.error .outOfMemory)) →
          m.system.reactor.groups.Fills m'.system.reactor.groups) := fun h =>
    ⟨Pool.fills_of_capacity_eq h.notifications, fun _ => Pool.fills_of_capacity_eq h.groups⟩
  cases move_of_step hs with
  | begins hb hy => exact hsame (hy ▸ Host.sameSlots_select)
  | @register request next hc hy =>
    rw [hy]
    refine ⟨Host.notifications_fill_of_register hm request, fun hgranted => ?_⟩
    refine Host.groups_fill_of_register hm fun he => hgranted ?_
    simp only [answer, hc, he]
  | cancel hc hy => exact hsame (hy ▸ Host.sameSlots_cancel _)
  | takes hc ht => exact hsame (Reactor.sameSlots_of_takeReady ht)
  | rests hr ho hx => exact hsame (hr ▸ .refl _)

theorem fills_at (host : Host σ α) (hm : m.system.reactor.WellFormed) (k : Nat) :
    (m.reactorAt host k).notifications.Fills (m.reactorAt host (k + 1)).notifications ∧
      (m.answerAt host k ≠ some (.registered (.error .outOfMemory)) →
        (m.reactorAt host k).groups.Fills (m.reactorAt host (k + 1)).groups) := by
  unfold reactorAt answerAt
  rw [run_succ]
  cases hs : (m.run host k).step host with
  | none => exact ⟨Pool.fills_of_capacity_eq rfl, fun _ => Pool.fills_of_capacity_eq rfl⟩
  | some m' => exact fills_of_step (wellFormed_reactorAt host hm k) hs

/-! ## Peaks -/

/-- The most of something at any moment of a number of steps. -/
def peak (f : Reactor α → Nat) (host : Host σ α) (m : Machine σ α) : Nat → Nat
  | 0 => f (m.reactorAt host 0)
  | n + 1 => max (peak f host m n) (f (m.reactorAt host (n + 1)))

/-- A pool that only ever takes new slots when all are in use has as many slots as at the start, or as were
in use at most. -/
theorem capacity_eq_peak {β : Type} (pool : Reactor α → Pool β) {n : Nat}
    (hfill : ∀ k < n, (pool (m.reactorAt host k)).Fills (pool (m.reactorAt host (k + 1)))) :
    (pool (m.reactorAt host n)).capacity =
      max (pool (m.reactorAt host 0)).capacity (m.peak (fun r => (pool r).activeCount) host n) :=
  Pool.capacity_eq_max (fun k => pool (m.reactorAt host k)) rfl (fun _ => rfl) hfill

/-- As long as no more is in use than at some moment, a pool stays as it was then. -/
theorem capacity_eq_of_le {β : Type} (pool : Reactor α → Pool β) {a n : Nat} (han : a ≤ n)
    (hfill : ∀ k, a ≤ k → k < n →
      (pool (m.reactorAt host k)).Fills (pool (m.reactorAt host (k + 1))))
    (hle : ∀ k, a ≤ k → k ≤ n →
      (pool (m.reactorAt host k)).activeCount ≤ (pool (m.reactorAt host a)).activeCount) :
    (pool (m.reactorAt host n)).capacity = (pool (m.reactorAt host a)).capacity := by
  induction n, han using Nat.le_induction with
  | base => rfl
  | succ n han ih =>
    have hstep : _ = max _ _ := hfill n han (Nat.lt_succ_self n)
    have hbefore := ih (fun k hk hkn => hfill k hk (Nat.lt_succ_of_lt hkn))
      fun k hk hkn => hle k hk (Nat.le_succ_of_le hkn)
    have hnow := hle (n + 1) (Nat.le_succ_of_le han) (Nat.le_refl _)
    have hroom := (pool (m.reactorAt host a)).activeCount_le_capacity
    omega

end Machine

/-! ## What is in use -/

namespace Reactor

variable {r r' : Reactor α}

/-- Is there a notification on the descriptor? -/
def Uses (r : Reactor α) (d : Descriptor) : Prop :=
  ∃ h n, r.notifications.get? h = some n ∧ n.descriptor = d

theorem WellFormed.uses_of_mem_active (hr : r.WellFormed) {g : Handle} (hg : g ∈ r.active) :
    r.Uses (r.descriptorOf g) := by
  obtain ⟨group, hgroup⟩ := hr.exists_group hg
  obtain ⟨h, hh⟩ := List.exists_mem_of_ne_nil _ (hr.pending_ne_nil g group hgroup)
  obtain ⟨n, hn, hplace⟩ := (hr.mem_pending g group h hgroup).mp hh
  obtain ⟨group', hgroup', hd⟩ := hr.group_of_place h n g hn hplace
  rw [descriptorOf_of_get? hgroup']
  exact ⟨h, n, hn, hd.symm⟩

/-- With an empty ready queue every notification has its group. -/
theorem WellFormed.exists_active_of_uses (hr : r.WellFormed) (hq : r.ready = []) {d : Descriptor}
    (hd : r.Uses d) : ∃ g ∈ r.active, r.descriptorOf g = d := by
  obtain ⟨h, n, hn, rfl⟩ := hd
  cases hplace : n.place with
  | spare => exact absurd hplace (hr.sound h n hn).place
  | ready =>
    have hmem := (hr.mem_ready h).mpr ⟨n, hn, hplace⟩
    rw [hq] at hmem
    cases hmem
  | group g =>
    obtain ⟨group, hg, hd⟩ := hr.group_of_place h n g hn hplace
    exact ⟨g, hr.mem_active_of_get? hg, (descriptorOf_of_get? hg).trans hd⟩

theorem WellFormed.descriptors_nodup (hr : r.WellFormed) : (r.active.map r.descriptorOf).Nodup := by
  refine hr.active_nodup.map_on ?_
  intro g hg k hk he
  obtain ⟨a, ha⟩ := hr.exists_group hg
  obtain ⟨b, hb⟩ := hr.exists_group hk
  rw [descriptorOf_of_get? ha, descriptorOf_of_get? hb] at he
  exact hr.descriptor_inj g k a b ha hb he

/-- A reactor that uses no descriptor that another one does not use has no more groups, if nothing stands in
the other's ready queue. -/
theorem WellFormed.active_length_le (hr : r.WellFormed) (hr' : r'.WellFormed) (hq : r.ready = [])
    (hsub : ∀ d, r'.Uses d → r.Uses d) : r'.active.length ≤ r.active.length := by
  have hmaps : r'.active.map r'.descriptorOf ⊆ r.active.map r.descriptorOf := by
    intro d hd
    obtain ⟨g, hg, rfl⟩ := List.mem_map.mp hd
    obtain ⟨k, hk, he⟩ := hr.exists_active_of_uses hq (hsub _ (hr'.uses_of_mem_active hg))
    exact List.mem_map.mpr ⟨k, hk, he⟩
  simpa using (hr'.descriptors_nodup.subperm hmaps).length_le

namespace Effect

variable {o : Option (Occurrence α)}

/-- Only a registration brings in a descriptor. -/
theorem uses (he : Effect o r r') {d : Descriptor} (hd : r'.Uses d) :
    r.Uses d ∨ ∃ h request due, o = some (.registered h request due) ∧ request.descriptor = d := by
  obtain ⟨h, n, hn, rfl⟩ := hd
  cases he with
  | none rests =>
    rw [rests.notifications] at hn
    exact Or.inl ⟨h, n, hn, rfl⟩
  | registered arms =>
    rw [arms.notifications.get?] at hn
    split at hn
    · cases hn
      exact Or.inr ⟨_, _, _, rfl, rfl⟩
    · exact Or.inl ⟨h, n, hn, rfl⟩
  | cancelled withdraws =>
    rw [withdraws.notifications.get?] at hn
    split at hn
    · cases hn
    · exact Or.inl ⟨h, n, hn, rfl⟩
  | selected selects =>
    rw [selects.notifications.get?] at hn
    obtain ⟨n', hn', rfl⟩ := Option.map_eq_some_iff.mp hn
    exact Or.inl ⟨h, n', hn', (descriptor_mark r _ _ n').symm⟩
  | invoked takes =>
    rw [takes.notifications.get?] at hn
    split at hn
    · cases hn
    · exact Or.inl ⟨h, n, hn, rfl⟩

theorem uses_of_invoked (he : Effect o r r') {i : Handle × Event α}
    (hi : o.bind Occurrence.invoked? = some i) : r.Uses i.2.descriptor := by
  cases he with
  | none _ => cases hi
  | registered _ => cases hi
  | cancelled _ => cases hi
  | selected _ => cases hi
  | invoked takes =>
    cases hi
    obtain ⟨n, hn, -, htells⟩ := takes.tells
    exact ⟨_, n, hn, htells.descriptor.symm⟩

/-- An invocation makes room for one registration. -/
theorem pending_le (he : Effect o r r') :
    r'.pending + (if (o.bind Occurrence.invoked?).isSome then 1 else 0) ≤
      r.pending + if (o.bind Occurrence.given?).isSome then 1 else 0 := by
  unfold pending
  cases he with
  | none rests => simp [rests.notifications]
  | registered arms => simp [arms.notifications.activeCount, Occurrence.given?, Occurrence.invoked?]
  | cancelled withdraws =>
    simp [← withdraws.notifications.activeCount, Occurrence.given?, Occurrence.invoked?]
  | selected selects =>
    simp [selects.notifications.activeCount, Occurrence.given?, Occurrence.invoked?]
  | invoked takes => simp [takes.notifications.activeCount, Occurrence.given?, Occurrence.invoked?]

end Effect

end Reactor

/-! ## Notifications in the place of others -/

namespace Machine

variable {host : Host σ α} {m : Machine σ α}

/-- From one moment to another, every accepted registration is on the descriptor of a callback invoked
meanwhile, each of another. -/
structure Rearms (host : Host σ α) (m : Machine σ α) (placeOf : Nat → Nat) (a n : Nat) : Prop where
  invoked : ∀ k, a ≤ k → k < n → ∀ h request due,
    m.occurrenceAt host k = some (.registered h request due) →
      a ≤ placeOf k ∧ placeOf k < k ∧
        ∃ i, m.invokedAt host (placeOf k) = some i ∧ i.2.descriptor = request.descriptor
  inj : ∀ j k, a ≤ j → j < n → a ≤ k → k < n → (m.givenAt host j).isSome = true →
    (m.givenAt host k).isSome = true → placeOf j = placeOf k → j = k

theorem Rearms.mono {placeOf : Nat → Nat} {a k n : Nat} (hr : m.Rearms host placeOf a n) (hkn : k ≤ n) :
    m.Rearms host placeOf a k where
  invoked j haj hjk := hr.invoked j haj (Nat.lt_of_lt_of_le hjk hkn)
  inj i j hai hik haj hjk :=
    hr.inj i j hai (Nat.lt_of_lt_of_le hik hkn) haj (Nat.lt_of_lt_of_le hjk hkn)

theorem pending_add_invoked_le (host : Host σ α) (hm : m.system.reactor.WellFormed) {a n : Nat} (han : a ≤ n) :
    (m.reactorAt host n).pending + #{k ∈ Finset.Ico a n | (m.invokedAt host k).isSome} ≤
      (m.reactorAt host a).pending + #{k ∈ Finset.Ico a n | (m.givenAt host k).isSome} := by
  induction n, han using Nat.le_induction with
  | base => simp
  | succ n han ih =>
    have hstep := (effect_at host hm n).pending_le
    rw [Finset.card_filter, Finset.card_filter] at ih ⊢
    rw [Finset.sum_Ico_succ_top han, Finset.sum_Ico_succ_top han]
    unfold invokedAt givenAt at ih ⊢
    omega

theorem Rearms.pending_le (hm : m.system.reactor.WellFormed) {placeOf : Nat → Nat} {a n : Nat}
    (han : a ≤ n) (hr : m.Rearms host placeOf a n) :
    (m.reactorAt host n).pending ≤ (m.reactorAt host a).pending := by
  -- each accepted registration has an invocation of its own
  have hcard : #{k ∈ Finset.Ico a n | (m.givenAt host k).isSome} ≤
      #{k ∈ Finset.Ico a n | (m.invokedAt host k).isSome} := by
    refine Finset.card_le_card_of_injOn placeOf ?_ ?_
    · intro k hk
      simp only [Finset.mem_coe, Finset.mem_filter, Finset.mem_Ico] at hk ⊢
      obtain ⟨h, hgiven⟩ := Option.isSome_iff_exists.mp hk.2
      obtain ⟨request, due, ho⟩ := Occurrence.bind_given?_eq_some.mp hgiven
      obtain ⟨hle, hlt, i, hi, -⟩ := hr.invoked k hk.1.1 hk.1.2 h request due ho
      exact ⟨⟨hle, Nat.lt_trans hlt hk.1.2⟩, by rw [hi]; rfl⟩
    · intro j hj k hk he
      simp only [Finset.mem_coe, Finset.mem_filter, Finset.mem_Ico] at hj hk
      exact hr.inj j k hj.1.1 hj.1.2 hk.1.1 hk.1.2 hj.2 hk.2 he
  have := pending_add_invoked_le host hm han
  omega

/-- No descriptor comes in that was not there before. The induction looks back to all earlier moments,
since a registration does. -/
theorem Rearms.uses (hm : m.system.reactor.WellFormed) {placeOf : Nat → Nat} {a n : Nat}
    (hr : m.Rearms host placeOf a n) :
    ∀ k, a ≤ k → k ≤ n → ∀ d, (m.reactorAt host k).Uses d → (m.reactorAt host a).Uses d := by
  intro k
  induction k using Nat.strong_induction_on with
  | _ k ih =>
    intro hak hkn d hd
    rcases Nat.eq_or_lt_of_le hak with rfl | hlt
    · exact hd
    · obtain ⟨j, rfl⟩ := Nat.exists_eq_add_of_lt hlt
      rcases (effect_at host hm (a + j)).uses hd with hbefore | ⟨h, request, due, ho, rfl⟩
      · exact ih (a + j) (by omega) (by omega) (by omega) d hbefore
      · -- the descriptor is that of a callback invoked before, whose notification used it then
        obtain ⟨hle, hlt', i, hi, hd'⟩ := hr.invoked (a + j) (by omega) (by omega) h request due ho
        rw [← hd']
        exact ih (placeOf (a + j)) (by omega) hle (by omega) _
          ((effect_at host hm _).uses_of_invoked hi)

/-- What the numbers of slots come to after a number of steps. -/
structure Frugal (host : Host σ α) (m : Machine σ α) (groups notifications n : Nat) : Prop where
  /-- There are as many notifications as at the start, or as were pending at most, … -/
  notifications : (m.reactorAt host n).status.allocatedNotifications =
    max notifications (m.peak Reactor.pending host n)
  /-- … and as many groups as at the start, or as were active at most, if no registration was refused memory. -/
  groups : (∀ k < n, m.answerAt host k ≠ some (.registered (.error .outOfMemory))) →
    (m.reactorAt host n).status.allocatedGroups =
      max groups (m.peak (fun r => r.status.activeGroups) host n)
  /-- Callbacks that are registered again, from a moment outside of ticks on, need no more of either. -/
  rearming : ∀ a ≤ n, ∀ placeOf, (m.reactorAt host a).ready = [] → m.Rearms host placeOf a n →
    (m.reactorAt host n).status.allocatedNotifications =
        (m.reactorAt host a).status.allocatedNotifications ∧
      ((∀ k, a ≤ k → k < n → m.answerAt host k ≠ some (.registered (.error .outOfMemory))) →
        (m.reactorAt host n).status.allocatedGroups = (m.reactorAt host a).status.allocatedGroups)

theorem peak_congr {f g : Reactor α → Nat} {n : Nat}
    (h : ∀ k ≤ n, f (m.reactorAt host k) = g (m.reactorAt host k)) :
    m.peak f host n = m.peak g host n := by
  induction n with
  | zero => exact h 0 (Nat.le_refl 0)
  | succ n ih => rw [peak, peak, ih fun k hk => h k (Nat.le_succ_of_le hk), h (n + 1) (Nat.le_refl _)]

theorem frugal_of_wellFormed (host : Host σ α) (hm : m.system.reactor.WellFormed) (n : Nat) :
    m.Frugal host m.system.reactor.groups.capacity m.system.reactor.notifications.capacity n where
  notifications := capacity_eq_peak Reactor.notifications fun k _ => (fills_at host hm k).1
  groups hgranted := by
    refine (capacity_eq_peak Reactor.groups fun k hk => (fills_at host hm k).2 (hgranted k hk)).trans ?_
    rw [peak_congr (g := fun r => r.active.length) fun k _ =>
      (wellFormed_reactorAt host hm k).activeCount_groups]
    rfl
  rearming a han placeOf hq hr := by
    refine ⟨capacity_eq_of_le Reactor.notifications han (fun k _ _ => (fills_at host hm k).1) ?_,
      fun hgranted => capacity_eq_of_le Reactor.groups han
        (fun k hak hkn => (fills_at host hm k).2 (hgranted k hak hkn)) ?_⟩
    · exact fun k hak hkn => (hr.mono hkn).pending_le hm hak
    · intro k hak hkn
      have hka := wellFormed_reactorAt host hm a
      have hkk := wellFormed_reactorAt host hm k
      rw [hka.activeCount_groups, hkk.activeCount_groups]
      exact hka.active_length_le hkk hq (hr.uses hm k hak hkn)

end Machine

/-! ## Reactors with preallocated pools -/

/-- A reactor without notifications, with so many groups and notifications set aside. -/
inductive Reactor.Preallocated : Nat → Nat → Reactor α → Prop where
  | empty (floor : Span) : Preallocated 0 0 (.empty floor)
  | ofSettings {memory : Memory} {settings : ReactorSettings} {r : Reactor α}
      (groups : settings.groups.toNat ≤ 4294967296)
      (notifications : settings.notifications.toNat ≤ 4294967296)
      (built : Reactor.ofSettings memory settings = .ok r) :
      Preallocated settings.groups.toNat settings.notifications.toNat r

namespace Reactor.Preallocated

variable {groups notifications : Nat} {r : Reactor α}

theorem initial (h : r.Preallocated groups notifications) : r.Initial := by
  cases h with
  | empty floor => exact .empty floor
  | ofSettings hgroups hnotes built => exact .ofSettings hgroups hnotes built

theorem capacity (h : r.Preallocated groups notifications) :
    r.groups.capacity = groups ∧ r.notifications.capacity = notifications := by
  cases h with
  | empty floor => exact ⟨rfl, rfl⟩
  | ofSettings _ _ built =>
    obtain ⟨groups, notifications, hg, hn, rfl⟩ := ofSettings_cases built
    exact ⟨Pool.capacity_of_ofCapacity hg, Pool.capacity_of_ofCapacity hn⟩

end Reactor.Preallocated

namespace Machine

/-- **At every moment of every run there are as many slots as were set aside, or as were in use at most.** -/
theorem allocates_to_the_peak {y : System σ α} {groups notifications : Nat}
    (hy : y.reactor.Preallocated groups notifications) (host : Host σ α) (p : Program σ α) (n : Nat) :
    (start y p).Frugal host groups notifications n := by
  have hfrugal := frugal_of_wellFormed (m := start y p) host
    (Reactor.wellFormed_of_initial hy.initial) n
  obtain ⟨hgroups, hnotes⟩ := hy.capacity
  rwa [show (start y p).system.reactor = y.reactor from rfl, hgroups, hnotes] at hfrugal

end Machine

/-- Surroundings in which time stands still, every descriptor can be read, and callbacks register
themselves again. -/
def Host.rearming : Host Unit Unit :=
  { Host.steady with callback := fun _ e => .register (e.again .read .infinite) fun _ => .done }

/-- Registers for reading and runs two ticks. -/
def Program.tickTwice : Program Unit Unit :=
  .register .toRead fun _ => .tick fun _ => .tick fun _ => .done

namespace Machine

theorem rearms_tick_twice : (start .unused .tickTwice).Rearms .rearming (· - 1) 1 11 where
  invoked k hk hkn h request due ho := by
    have hregisters : k = 3 ∨ k = 9 := by
      interval_cases k <;> first | decide | cases ho
    rcases hregisters with rfl | rfl
    · cases ho
      exact ⟨by decide, by decide, _, rfl, rfl⟩
    · cases ho
      exact ⟨by decide, by decide, _, rfl, rfl⟩
  inj j k hj hjn hk hkn hgj hgk he := by omega

theorem tick_twice_granted :
    ∀ k < 11, (start .unused .tickTwice).answerAt .rearming k ≠ some (.registered (.error .outOfMemory)) := by
  intro k hk
  interval_cases k <;> nofun

theorem tick_twice_allocates_once :
    System.unused.reactor.Preallocated 0 0 ∧
      ((start .unused .tickTwice).reactorAt .rearming 11).status.allocatedNotifications = max 0 1 ∧
      ((start .unused .tickTwice).reactorAt .rearming 11).status.allocatedGroups =
        ((start .unused .tickTwice).reactorAt .rearming 1).status.allocatedGroups := by
  have hfrugal := allocates_to_the_peak (y := .unused) (.empty _) .rearming .tickTwice 11
  refine ⟨.empty _, hfrugal.notifications.trans ?_, ?_⟩
  · rfl
  · refine (hfrugal.rearming 1 (by decide) _ rfl rearms_tick_twice).2 ?_
    exact fun k _ hk => tick_twice_granted k hk

end Machine

end EventLoop
