import EventLoop.Proofs.Store.Map

/-!
# Walking through a store

A walk starts at the first entry and goes from each entry to its successor. It keeps nothing but the last key,
so the store may be written between its steps.

* `Lists.next_eq_find?` — the successor is the first entry whose key comes after.
* `Store.met` — the walk, with calls between its steps.
* `passed_or_met` — the walk passes by no key that stays in the store.
* `walk_in_order` — the order and the completeness of a walk.
-/

namespace EventLoop.Store

/-! ## The successor -/

/-- Does a key come after the last one, if there is one? -/
def follows (prev : Option String) (key : String) : Bool := prev.all (keyBefore · key)

variable {s : Store} {l : List Entry}

/-- **The successor is the first entry whose key comes after.** -/
theorem Lists.next_eq_find? (hs : s.Lists l) (prev : Option String) :
    s.next prev = l.find? fun e => follows prev e.key := by
  cases prev with
  | none =>
    have hall : l.filter (fun e => follows none e.key) = l := List.filter_eq_self.mpr fun _ _ => rfl
    rw [← List.head?_filter, hall, List.head?_eq_getElem?]
    exact hs.entryAt?_eq 0
  | some key =>
    obtain ⟨before, here, after, hc⟩ := exists_cut key hs.ascending
    have hbefore : before.find? (fun e => keyBefore key e.key) = none :=
      List.find?_eq_none.mpr fun e he hlt => by
        rw [keyBefore_asymm (hc.before e he)] at hlt
        cases hlt
    have hhere : here.toList.find? (fun e => keyBefore key e.key) = none :=
      List.find?_eq_none.mpr fun e he hlt => by
        rw [hc.here e (Option.mem_toList.mp he), keyBefore_irrefl] at hlt
        cases hlt
    have hafter : after.find? (fun e => keyBefore key e.key) = after.head? := by
      rw [← List.head?_filter, List.filter_eq_self.mpr hc.after]
    rw [hs.next_of_cut hc, hc.eq]
    show _ = List.find? (fun e : Entry => keyBefore key e.key) _
    rw [List.find?_append, List.find?_append, hbefore, hhere, hafter]
    rfl

theorem Lists.of_next (hs : s.Lists l) {prev : Option String} {e : Entry} (h : s.next prev = some e) :
    e ∈ l ∧ follows prev e.key = true := by
  rw [hs.next_eq_find?] at h
  have hfollows := List.find?_some h
  exact ⟨List.mem_of_find?_eq_some h, hfollows⟩

/-- There is no other entry between the last one and the successor. -/
theorem Lists.next_of_follows (hs : s.Lists l) (prev : Option String) {x : Entry} (hx : x ∈ l)
    (hfollows : follows prev x.key = true) :
    ∃ e, s.next prev = some e ∧ (e = x ∨ keyBefore e.key x.key = true) := by
  rw [hs.next_eq_find?]
  cases hfind : l.find? fun e => follows prev e.key with
  | none => exact absurd hfollows (List.find?_eq_none.mp hfind x hx)
  | some e =>
    refine ⟨e, rfl, ?_⟩
    obtain ⟨-, before, after, rfl, hbefore⟩ := List.find?_eq_some_iff_append.mp hfind
    rcases List.mem_append.mp hx with hb | hrest
    · have hnot := hbefore x hb
      rw [hfollows] at hnot
      cases hnot
    · rcases List.mem_cons.mp hrest with rfl | ha
      · exact Or.inl rfl
      · exact Or.inr ((List.pairwise_cons.mp (List.pairwise_append.mp hs.ascending).2.1).1 x ha)

theorem Lists.find_of_mem (hs : s.Lists l) {e : Entry} (he : e ∈ l) : s.find (some e.key) = some e := by
  obtain ⟨before, here, after, hc⟩ := exists_cut e.key hs.ascending
  rw [hs.find_of_cut hc]
  exact (hc.mem_iff_of_key rfl).mp he

theorem Lists.contains_iff (hs : s.Lists l) {key : String} :
    s.contains key = true ↔ ∃ e ∈ l, e.key = key := by
  obtain ⟨before, here, after, hc⟩ := exists_cut key hs.ascending
  rw [hs.contains_of_cut hc, Option.isSome_iff_exists]
  constructor
  · rintro ⟨e, rfl⟩
    exact ⟨e, (hc.mem_iff_of_key (hc.here e rfl)).mpr rfl, hc.here e rfl⟩
  · rintro ⟨e, he, hkey⟩
    exact ⟨e, (hc.mem_iff_of_key hkey).mp he⟩

/-- Where an entry stands, the list is cut at its key. -/
theorem cut_of_getElem? (hl : Ascending l) {k : Nat} {e : Entry} (hk : l[k]? = some e) :
    Cut e.key l (l.take k) (some e) (l.drop (k + 1)) := by
  obtain ⟨hlt, rfl⟩ := List.getElem?_eq_some_iff.mp hk
  have heq : l = l.take k ++ l[k] :: l.drop (k + 1) := by
    rw [← List.drop_eq_getElem_cons hlt, List.take_append_drop]
  rw [heq] at hl
  obtain ⟨-, hrest, hcross⟩ := List.pairwise_append.mp hl
  refine ⟨heq, fun x hx => hcross x hx _ List.mem_cons_self, ?_, (List.pairwise_cons.mp hrest).1⟩
  rintro _ ⟨⟩
  rfl

/-- The successor of an entry is the one that stands after it. -/
theorem Lists.next_of_getElem? (hs : s.Lists l) {k : Nat} {e : Entry} (hk : l[k]? = some e) :
    s.next (some e.key) = l[k + 1]? := by
  rw [hs.next_of_cut (cut_of_getElem? hs.ascending hk), List.head?_drop]

/-! ## A walk -/

/-- The store at each step of a walk. There may be calls before each of them. -/
def storeAt (s : Store) (between : Nat → List StoreCall) : Nat → Store
  | 0 => s.after (between 0)
  | k + 1 => (storeAt s between k).after (between (k + 1))

/-- What is met at each step of a walk: the first entry, and then the successor of the last one. -/
def met (s : Store) (between : Nat → List StoreCall) : Nat → Option Entry
  | 0 => (s.storeAt between 0).next none
  | k + 1 => (met s between k).bind fun e => (s.storeAt between (k + 1)).next (some e.key)

variable {between : Nat → List StoreCall}

theorem exists_lists_storeAt (h : s.Initial) (between : Nat → List StoreCall) (k : Nat) :
    ∃ l, (s.storeAt between k).Lists l := by
  have hmodels : ∃ m, (s.storeAt between k).Models m := by
    induction k with
    | zero => exact exists_models_after (models_of_initial h) _
    | succ k ih =>
      obtain ⟨m, hm⟩ := ih
      exact exists_models_after hm _
  obtain ⟨m, l, hl, -⟩ := hmodels
  exact ⟨l, hl⟩

theorem met_succ {k : Nat} {b : Entry} (h : s.met between (k + 1) = some b) :
    ∃ a, s.met between k = some a ∧ (s.storeAt between (k + 1)).next (some a.key) = some b :=
  Option.bind_eq_some_iff.mp h

/-- What is met is an entry of the store at that time. -/
theorem met_mem {k : Nat} {e : Entry} (hl : (s.storeAt between k).Lists l) (he : s.met between k = some e) :
    e ∈ l := by
  cases k with
  | zero => exact (hl.of_next he).1
  | succ k =>
    obtain ⟨a, -, hnext⟩ := met_succ he
    exact (hl.of_next hnext).1

/-- The induction is on the later step. -/
theorem met_ascending (h : s.Initial) {j k : Nat} {a b : Entry} (hjk : j < k)
    (ha : s.met between j = some a) (hb : s.met between k = some b) : keyBefore a.key b.key = true := by
  induction k generalizing b with
  | zero => cases hjk
  | succ k ih =>
    obtain ⟨c, hc, hnext⟩ := met_succ hb
    obtain ⟨l, hl⟩ := exists_lists_storeAt h between (k + 1)
    have hcb : keyBefore c.key b.key = true := (hl.of_next hnext).2
    rcases Nat.lt_succ_iff_lt_or_eq.mp hjk with hlt | rfl
    · exact keyBefore_trans (ih hlt hc) hcb
    · rw [ha] at hc
      cases hc
      exact hcb

/-- **A key that stays in the store is met, or the walk has yet to come to it.** -/
theorem passed_or_met (h : s.Initial) {key : String} {k : Nat}
    (hstays : ∀ j ≤ k, (s.storeAt between j).contains key = true) :
    (∃ j ≤ k, ∃ e, s.met between j = some e ∧ e.key = key) ∨
      ∃ e, s.met between k = some e ∧ keyBefore e.key key = true := by
  induction k with
  | zero =>
    obtain ⟨l, hl⟩ := exists_lists_storeAt h between 0
    obtain ⟨x, hx, rfl⟩ := hl.contains_iff.mp (hstays 0 (Nat.le_refl 0))
    obtain ⟨e, he, rfl | hlt⟩ := hl.next_of_follows none hx rfl
    · exact Or.inl ⟨0, Nat.le_refl 0, e, he, rfl⟩
    · exact Or.inr ⟨e, he, hlt⟩
  | succ k ih =>
    rcases ih fun j hj => hstays j (Nat.le_succ_of_le hj) with ⟨j, hj, hmet⟩ | ⟨a, ha, hlt⟩
    · exact Or.inl ⟨j, Nat.le_succ_of_le hj, hmet⟩
    · obtain ⟨l, hl⟩ := exists_lists_storeAt h between (k + 1)
      obtain ⟨x, hx, rfl⟩ := hl.contains_iff.mp (hstays (k + 1) (Nat.le_refl _))
      obtain ⟨e, he, hor⟩ := hl.next_of_follows (some a.key) hx hlt
      have hmet : s.met between (k + 1) = some e := by
        rw [met, ha]
        exact he
      rcases hor with rfl | hlt'
      · exact Or.inl ⟨k + 1, Nat.le_refl _, e, hmet, rfl⟩
      · exact Or.inr ⟨e, hmet, hlt'⟩

/-! ## A walk without interruption -/

theorem storeAt_of_undisturbed (hnone : ∀ k, between (k + 1) = []) (k : Nat) :
    s.storeAt between k = s.storeAt between 0 := by
  induction k with
  | zero => rfl
  | succ k ih =>
    rw [← ih]
    show (s.storeAt between k).after (between (k + 1)) = _
    rw [hnone]
    rfl

theorem met_of_undisturbed (hl : (s.storeAt between 0).Lists l) (hnone : ∀ k, between (k + 1) = [])
    (k : Nat) : s.met between k = l[k]? := by
  induction k with
  | zero => exact hl.entryAt?_eq 0
  | succ k ih =>
    rw [met, ih, storeAt_of_undisturbed hnone]
    cases hk : l[k]? with
    | none => exact (List.getElem?_eq_none (Nat.le_succ_of_le (List.getElem?_eq_none_iff.mp hk))).symm
    | some e => exact hl.next_of_getElem? hk

theorem Lists.walkFrom_of_getElem? (hs : s.Lists l) (count : Nat) {k : Nat} {e : Entry}
    (hk : l[k]? = some e) : s.walkFrom (some e.key) count = (l.drop (k + 1)).take count := by
  induction count generalizing k e with
  | zero => rfl
  | succ count ih =>
    rw [walkFrom, hs.next_of_getElem? hk]
    cases hnext : l[k + 1]? with
    | none =>
      rw [List.drop_eq_nil_of_le (List.getElem?_eq_none_iff.mp hnext)]
      rfl
    | some x =>
      obtain ⟨hlt, rfl⟩ := List.getElem?_eq_some_iff.mp hnext
      rw [List.drop_eq_getElem_cons hlt, List.take_succ_cons, ← ih hnext]

theorem Lists.walk_eq (hs : s.Lists l) : s.walk = l := by
  unfold walk
  rw [hs.size_eq]
  have hnext : s.next none = l[0]? := hs.entryAt?_eq 0
  cases l with
  | nil => rfl
  | cons e rest =>
    rw [List.length_cons, walkFrom, hnext]
    show e :: s.walkFrom (some e.key) rest.length = _
    rw [hs.walkFrom_of_getElem? rest.length (k := 0) rfl]
    exact congrArg (e :: ·) (List.take_length)

/-! ## The order and the completeness of a walk -/

/-- A walk through a store that may be written between the steps. -/
structure Walks (s : Store) (between : Nat → List StoreCall) : Prop where
  /-- The keys strictly increase, so that none is met twice. -/
  ascending : ∀ j k a b, j < k → s.met between j = some a → s.met between k = some b →
    keyBefore a.key b.key = true
  /-- What is met is in the store at that time. -/
  present : ∀ k e, s.met between k = some e →
    e ∈ (s.storeAt between k).toList ∧ (s.storeAt between k).find (some e.key) = some e
  /-- At its end the walk has met, exactly once, every key that was in the store all along. -/
  complete : ∀ n, s.met between n = none → ∀ key, (∀ k ≤ n, (s.storeAt between k).contains key = true) →
    ∃! k, k < n ∧ ∃ e, s.met between k = some e ∧ e.key = key
  /-- If nothing is written, the walk meets the entries in order, and then ends. -/
  undisturbed : (∀ k, between (k + 1) = []) →
    (∀ k, s.met between k = (s.storeAt between 0).toList[k]?) ∧
      (∀ k, s.met between k = none ↔ (s.storeAt between 0).size ≤ k) ∧
      (s.storeAt between 0).walk = (s.storeAt between 0).toList

/-- **Whatever is written on the way, a walk goes up in order and passes nothing by.** -/
theorem walk_in_order {s : Store} (h : s.Initial) (between : Nat → List StoreCall) : s.Walks between where
  ascending j k a b := met_ascending h
  present k e he := by
    obtain ⟨l, hl⟩ := exists_lists_storeAt h between k
    have hmem := met_mem hl he
    exact ⟨hl.toList_eq ▸ hmem, hl.find_of_mem hmem⟩
  complete n hend key hstays := by
    rcases passed_or_met h hstays with ⟨k, hk, e, he, hkey⟩ | ⟨e, he, -⟩
    · have hne : k ≠ n := by
        rintro rfl
        rw [hend] at he
        cases he
      refine ⟨k, ⟨Nat.lt_of_le_of_ne hk hne, e, he, hkey⟩, ?_⟩
      rintro j ⟨-, x, hx, hxk⟩
      rcases Nat.lt_trichotomy j k with hlt | heq | hgt
      · exact absurd (hxk.trans hkey.symm) (ne_of_keyBefore (met_ascending h hlt hx he))
      · exact heq
      · exact absurd (hkey.trans hxk.symm) (ne_of_keyBefore (met_ascending h hgt he hx))
    · rw [hend] at he
      cases he
  undisturbed hnone := by
    obtain ⟨l, hl⟩ := exists_lists_storeAt h between 0
    have hmet := met_of_undisturbed hl hnone
    rw [hl.toList_eq, hl.size_eq, hl.walk_eq]
    refine ⟨hmet, fun k => ?_, rfl⟩
    rw [hmet, List.getElem?_eq_none_iff]

/-- Three entries to start from. The one met first is deleted, then put back, and another one comes in ahead
of the walk. -/
def rearranging : Nat → List StoreCall
  | 0 => [.set .unbounded (some "b") (.int 2), .set .unbounded (some "a") (.int 1),
      .set .unbounded (some "d") (.int 4)]
  | 1 => [.remove "a", .set .unbounded (some "c") (.int 3)]
  | 2 => [.set .unbounded (some "a") (.int 5)]
  | _ => []

theorem walk_in_order_rearranging :
    Store.empty.Initial ∧ Store.empty.Walks rearranging ∧
      (List.range 5).map (fun k => (Store.empty.met rearranging k).map Entry.key) =
        [some "a", some "b", some "c", some "d", none] :=
  ⟨.empty, walk_in_order .empty rearranging, by decide +kernel⟩

end EventLoop.Store
