import EventLoop.Proofs.Reactor.Selection
import EventLoop.Proofs.Reactor.Waiting

/-!
# What wakes a reactor finds work

The interest of a group is turned into conditions before the wait, and the reported conditions are turned
into events after it; each notification is then judged by its own part. None of this loses anything.

* `Conditions.fired_inter_isEmpty` — conditions that a wait may report for an entry are some of the events
  that were asked for.
* `exists_selects_of_reported` — an entry with reported conditions has a notification to select.
* `exists_selects_of_deadline` — so has a deadline that has passed.
-/

namespace EventLoop

variable {α : Type}

/-! ## Masks -/

namespace Events

theorem inter_union (a b c : Events) : a &&& (b ||| c) = (a &&& b) ||| (a &&& c) := by
  have hbits : a.bits &&& (b.bits ||| c.bits) = (a.bits &&& b.bits) ||| (a.bits &&& c.bits) := by
    rw [← UInt32.toNat_inj]
    simp only [UInt32.toNat_and, UInt32.toNat_or]
    exact Nat.and_or_distrib_left _ _ _
  show (⟨a.bits &&& (b.bits ||| c.bits)⟩ : Events) = ⟨(a.bits &&& b.bits) ||| (a.bits &&& c.bits)⟩
  rw [hbits]

theorem union_isEmpty (a b : Events) : (a ||| b).isEmpty = (a.isEmpty && b.isEmpty) := by
  show decide (a.bits ||| b.bits = 0) = (decide (a.bits = 0) && decide (b.bits = 0))
  rw [Bool.eq_iff_iff]
  simp [UInt32.or_eq_zero_iff]

theorem inter_isEmpty_of_contains {a b : Events} {e : Events} (he : e ∈ [read, write, except])
    (ha : a.contains e = true) (hb : b.contains e = true) : (a &&& b).isEmpty = false := by
  have ha' : a.bits &&& e.bits = e.bits := by simpa [contains] using ha
  have hb' : b.bits &&& e.bits = e.bits := by simpa [contains] using hb
  have hboth : a.bits &&& b.bits &&& e.bits = e.bits := by rw [UInt32.and_assoc, hb', ha']
  show decide (a.bits &&& b.bits = 0) = false
  rw [decide_eq_false_iff_not]
  intro hzero
  rw [hzero, UInt32.zero_and] at hboth
  simp only [List.mem_cons, List.not_mem_nil, or_false] at he
  rcases he with rfl | rfl | rfl <;> exact absurd hboth (by decide)

theorem exists_contains {e : Events} (he : e &&& .waitable = e) (hne : e.isEmpty = false) :
    ∃ x ∈ [read, write, except], e.contains x = true := by
  have hmem := eq_of_waitable he
  simp only [List.mem_cons, List.not_mem_nil, or_false] at hmem
  rcases hmem with rfl | rfl | rfl | rfl | rfl | rfl | rfl | rfl
  · cases hne
  · exact ⟨read, by simp, rfl⟩
  · exact ⟨write, by simp, rfl⟩
  · exact ⟨read, by simp, rfl⟩
  · exact ⟨except, by simp, rfl⟩
  · exact ⟨read, by simp, rfl⟩
  · exact ⟨write, by simp, rfl⟩
  · exact ⟨read, by simp, rfl⟩

end Events

namespace Conditions

theorem meets_union (c a b : Conditions) : c.meets (a ||| b) = (c.meets a || c.meets b) := by
  have hbits : c.bits &&& (a.bits ||| b.bits) = (c.bits &&& a.bits) ||| (c.bits &&& b.bits) := by
    rw [← UInt16.toNat_inj]
    simp only [UInt16.toNat_and, UInt16.toNat_or]
    exact Nat.and_or_distrib_left _ _ _
  show decide (c.bits &&& (a.bits ||| b.bits) ≠ 0) =
    (decide (c.bits &&& a.bits ≠ 0) || decide (c.bits &&& b.bits ≠ 0))
  rw [hbits, Bool.eq_iff_iff]
  simp [UInt16.or_eq_zero_iff, Classical.or_iff_not_imp_left]

theorem meets_comm (a b : Conditions) : a.meets b = b.meets a := by
  show decide (a.bits &&& b.bits ≠ 0) = decide (b.bits &&& a.bits ≠ 0)
  rw [UInt16.and_comm]

theorem meets_inter {a c : Conditions} (h : a &&& c = c) (b : Conditions) : (a &&& b).meets c = b.meets c := by
  have hbits : a.bits &&& c.bits = c.bits := congrArg Conditions.bits h
  show decide (a.bits &&& b.bits &&& c.bits ≠ 0) = decide (b.bits &&& c.bits ≠ 0)
  rw [UInt16.and_comm a.bits, UInt16.and_assoc, hbits]

theorem not_meets_none (c : Conditions) : c.meets .none = false := by
  show decide (c.bits &&& 0 ≠ 0) = false
  simp

theorem meets_of_inter_eq {c a : Conditions} (hne : c ≠ .none) (h : c &&& a = c) : c.meets a = true := by
  have hbits : c.bits &&& a.bits = c.bits := congrArg Conditions.bits h
  show decide (c.bits &&& a.bits ≠ 0) = true
  rw [hbits, decide_eq_true_eq]
  intro hzero
  exact hne (congrArg Conditions.mk hzero)

/-- Conditions that were asked for name an event that was. -/
theorem exists_of_meets_ofEvents {c : Conditions} {e : Events} (h : c.meets (ofEvents e) = true) :
    ∃ x ∈ [Events.read, .write, .except], e.contains x = true ∧ c.fired.contains x = true := by
  have hif : ∀ (b : Bool) (a : Conditions),
      c.meets (if b = true then a else .none) = (b && c.meets a) := by
    intro b a
    cases b
    · exact c.not_meets_none
    · rfl
  unfold ofEvents at h
  rw [meets_union, meets_union, hif, hif, hif] at h
  simp only [Bool.or_eq_true, Bool.and_eq_true] at h
  rcases h with (⟨he, hc⟩ | ⟨he, hc⟩) | ⟨he, hc⟩
  · exact ⟨.read, by simp, he, by rw [contains_read_fired, hc]; rfl⟩
  · exact ⟨.write, by simp, he, by rw [contains_write_fired, hc]; rfl⟩
  · exact ⟨.except, by simp, he, by rw [contains_except_fired, hc]; rfl⟩

/-- Conditions that nobody asked for count as every event. -/
theorem fired_contains_of_unasked {c : Conditions} (h : c.meets unasked = true) {x : Events}
    (hx : x ∈ [Events.read, .write, .except]) : c.fired.contains x = true := by
  simp only [List.mem_cons, List.not_mem_nil, or_false] at hx
  rcases hx with rfl | rfl | rfl
  · rw [contains_read_fired, h, Bool.or_true]
  · rw [contains_write_fired, h, Bool.or_true]
  · rw [contains_except_fired, h, Bool.or_true]

/-- **Whatever a wait may report for an entry is an event that was asked for.** -/
theorem fired_inter_isEmpty {c : Conditions} {e : Events} (he : e &&& .waitable = e)
    (hne : e.isEmpty = false) (hc : c ≠ .none) (hin : c &&& (ofEvents e ||| .unasked) = c) :
    (c.fired &&& e).isEmpty = false := by
  have hmeets := meets_of_inter_eq hc hin
  rw [meets_union, Bool.or_eq_true] at hmeets
  rcases hmeets with hasked | hunasked
  · obtain ⟨x, hx, hex, hcx⟩ := exists_of_meets_ofEvents hasked
    exact Events.inter_isEmpty_of_contains hx hcx hex
  · obtain ⟨x, hx, hex⟩ := Events.exists_contains he hne
    exact Events.inter_isEmpty_of_contains hx (fired_contains_of_unasked hunasked hx) hex

end Conditions

namespace Reactor

/-! ## Notifications to select -/

theorem foldl_interest_isEmpty (fired : Events) (l : List (Notification α)) (e : Events) :
    (fired &&& l.foldl (fun e n => e ||| n.interest) e).isEmpty =
      ((fired &&& e).isEmpty && l.all fun n => (fired &&& n.interest).isEmpty) := by
  induction l generalizing e with
  | nil => rw [List.foldl_nil, List.all_nil, Bool.and_true]
  | cons n rest ih =>
    rw [List.foldl_cons, ih, Events.inter_union, Events.union_isEmpty, Bool.and_assoc, List.all_cons]

/-- A group waits for an event when one of its members does. -/
theorem interestOf_isEmpty (r : Reactor α) (g : Handle) (fired : Events) :
    (fired &&& r.interestOf g).isEmpty = (r.members g).all fun n => (fired &&& n.interest).isEmpty := by
  have hzero : (fired &&& .none).isEmpty = true := by
    show decide (fired.bits &&& 0 = 0) = true
    simp
  rw [interestOf, foldl_interest_isEmpty, hzero, Bool.true_and]

theorem exists_member_of_interestOf {r : Reactor α} {g : Handle} {fired : Events}
    (h : (fired &&& r.interestOf g).isEmpty = false) :
    ∃ n ∈ r.members g, (fired &&& n.interest).isEmpty = false := by
  rw [interestOf_isEmpty, List.all_eq_false] at h
  obtain ⟨n, hn, hmet⟩ := h
  exact ⟨n, hn, eq_false_of_ne_true hmet⟩

theorem selects_of_member {r : Reactor α} (hr : r.WellFormed) {reported : List Conditions}
    {now : Instant} {g : Handle} {n : Notification α} (hn : n ∈ r.members g)
    (hmask : (r.maskOf reported now n).isEmpty = false) : ∃ h, r.selects reported now h = true := by
  obtain ⟨h, hget, hplace⟩ := (mem_members hr).mp hn
  refine ⟨h, ?_⟩
  rw [selects_of_get? hget, isSelected, hplace, hmask]
  rfl

theorem maskOf_of_met {r : Reactor α} {reported : List Conditions} {now : Instant} {n : Notification α}
    (h : (r.readiness reported n.descriptor &&& n.interest).isEmpty = false) :
    (r.maskOf reported now n).isEmpty = false := by
  unfold maskOf
  rw [h]
  exact h

theorem maskOf_of_due {r : Reactor α} {reported : List Conditions} {now : Instant} {n : Notification α}
    (h : n.due.any (·.le now) = true) : (r.maskOf reported now n).isEmpty = false := by
  unfold maskOf
  split
  · next hmet => simpa using hmet
  · rfl

/-- **An entry with reported conditions has a notification to select.** -/
theorem exists_selects_of_reported {r : Reactor α} (hr : r.WellFormed) {reported : List Conditions}
    {i : Nat} {e : PollEntry} {c : Conditions} (he : r.pollSet[i]? = some e)
    (hc : reported[i]? = some c) (hne : c ≠ .none) (hin : c &&& (e.asked ||| .unasked) = c)
    (now : Instant) : ∃ h, r.selects reported now h = true := by
  obtain ⟨g, -, hentry⟩ := List.mem_filterMap.mp (List.mem_of_getElem? he)
  obtain ⟨group, number, hg, hd, hi, rfl⟩ := entryOf_eq_some.mp hentry
  -- the entry is the one that its descriptor is looked up in
  obtain ⟨k, -, honly, hread⟩ := readiness_of_polled hr reported hg hd hi
  have hik : i = k := honly i _ he rfl
  rw [← hik, hc, Option.getD_some] at hread
  have hmet := Conditions.fired_inter_isEmpty (interestOf_waitable hr g) (eq_false_of_ne_true hi) hne hin
  rw [← hread] at hmet
  obtain ⟨n, hn, hmem⟩ := exists_member_of_interestOf hmet
  refine selects_of_member hr hn (maskOf_of_met ?_)
  obtain ⟨h, hget, hplace⟩ := (mem_members hr).mp hn
  obtain ⟨other, hother, hdesc⟩ := hr.group_of_place h n g hget hplace
  rw [hg] at hother
  cases hother
  rwa [← hdesc]

/-- **A deadline that has passed has a notification to select.** -/
theorem exists_selects_of_deadline {r : Reactor α} (hr : r.WellFormed) {t now : Instant}
    (ht : t ∈ r.deadlines) (hle : t.toNanos ≤ now.toNanos) (reported : List Conditions) :
    ∃ h, r.selects reported now h = true := by
  obtain ⟨g, -, n, hn, hdue⟩ := mem_deadlines.mp ht
  refine selects_of_member hr hn (maskOf_of_due ?_)
  rw [hdue, Option.any_some]
  exact Instant.le_iff_toNanos.mpr hle

/-- A wait that was bounded by a deadline ends when that has passed, or not before the bound is over. -/
theorem Bounded.exists_due {r : Reactor α} {entries : List PollEntry} {before : Option Instant}
    {bound : Option Span} (hb : r.Bounded entries before bound) (hne : r.deadlines ≠ []) {now post : Instant}
    {span : Span} (hnow : before = some now) (hspan : bound = some span)
    (hpost : (now + span).toNanos ≤ post.toNanos) : ∃ t ∈ r.deadlines, t.toNanos ≤ post.toNanos := by
  obtain ⟨now', first, span', hnow', hspan', hfirst, -, hlength⟩ := hb.deadline hne
  rw [hnow] at hnow'
  rw [hspan] at hspan'
  cases hnow'
  cases hspan'
  refine ⟨first, hfirst, ?_⟩
  have hlatest := first.toNanos_le_latest
  rw [Instant.toNanos_add] at hpost
  omega

end Reactor

end EventLoop
