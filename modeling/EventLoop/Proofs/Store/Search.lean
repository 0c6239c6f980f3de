import EventLoop.Proofs.Pool.Handles
import EventLoop.Store.Basic

/-!
# Finding entries by key

A store keeps an index of handles, ordered by the keys of the entries that they name. `Store.Lists` says
which entries a store holds; a list in the order of the keys can be cut at any key (`Cut`), and everything
that the store finds by bisection is told by that cut.

* `exists_cut` — there is a cut at every key.
* `rank_of_cut`, `contains_of_cut` — bisection finds the place of the cut, and whether the key is there.
* `find_of_cut`, `next_of_cut` — so lookups give the entry at the cut and the one after it.
-/

namespace EventLoop

/-! ## The order of keys -/

theorem keyBytes_inj {a b : String} (h : keyBytes a = keyBytes b) : a = b := by
  rw [← String.toByteArray_inj]
  exact ByteArray.ext (Array.toList_inj.mp h)

theorem keyBefore_iff {a b : String} : keyBefore a b = true ↔ keyBytes a < keyBytes b := decide_eq_true_iff

theorem keyBefore_irrefl (a : String) : keyBefore a a = false := decide_eq_false Std.lt_irrefl

theorem keyBefore_trans {a b c : String} (hab : keyBefore a b = true) (hbc : keyBefore b c = true) :
    keyBefore a c = true := by
  rw [keyBefore_iff] at *
  exact Std.lt_trans hab hbc

theorem keyBefore_asymm {a b : String} (h : keyBefore a b = true) : keyBefore b a = false := by
  by_contra hba
  have := keyBefore_trans h (eq_true_of_ne_false hba)
  rw [keyBefore_irrefl] at this
  cases this

theorem ne_of_keyBefore {a b : String} (h : keyBefore a b = true) : a ≠ b := by
  rintro rfl
  rw [keyBefore_irrefl] at h
  cases h

theorem keyBefore_trichotomy (a b : String) : keyBefore a b = true ∨ a = b ∨ keyBefore b a = true := by
  rw [keyBefore_iff, keyBefore_iff]
  rcases Std.lt_trichotomy (keyBytes a) (keyBytes b) with h | h | h
  · exact Or.inl h
  · exact Or.inr (Or.inl (keyBytes_inj h))
  · exact Or.inr (Or.inr h)

/-! ## Cuts -/

/-- The entries stand in strictly increasing order of their keys. -/
def Ascending (l : List Entry) : Prop := l.Pairwise fun a b => keyBefore a.key b.key = true

/-- A list cut at a key: the entries before it, the entry that has it, and the entries after it. -/
structure Cut (key : String) (l before : List Entry) (here : Option Entry) (after : List Entry) : Prop where
  eq : l = before ++ (here.toList ++ after)
  before : ∀ e ∈ before, keyBefore e.key key = true
  here : ∀ e, here = some e → e.key = key
  after : ∀ e ∈ after, keyBefore key e.key = true

theorem exists_cut (key : String) {l : List Entry} (hl : Ascending l) :
    ∃ before here after, Cut key l before here after := by
  induction l with
  | nil => exact ⟨[], none, [], rfl, nofun, nofun, nofun⟩
  | cons e rest ih =>
    obtain ⟨hrest, hl'⟩ := List.pairwise_cons.mp hl
    rcases keyBefore_trichotomy e.key key with hlt | heq | hgt
    · obtain ⟨before, here, after, hcut⟩ := ih hl'
      refine ⟨e :: before, here, after, congrArg (e :: ·) hcut.eq, ?_, hcut.here, hcut.after⟩
      rintro x (_ | ⟨_, hx⟩)
      · exact hlt
      · exact hcut.before x hx
    · refine ⟨[], some e, rest, rfl, nofun, ?_, fun x hx => heq ▸ hrest x hx⟩
      rintro _ ⟨⟩
      exact heq
    · refine ⟨[], none, e :: rest, rfl, nofun, nofun, ?_⟩
      rintro x (_ | ⟨_, hx⟩)
      · exact hgt
      · exact keyBefore_trans hgt (hrest x hx)

namespace Cut

variable {key : String} {l before after : List Entry} {here : Option Entry}

theorem not_before (hc : Cut key l before here after) {e : Entry} (he : e ∈ here.toList ++ after) :
    keyBefore e.key key = false := by
  rcases List.mem_append.mp he with hhere | hafter
  · rw [Option.mem_toList] at hhere
    rw [hc.here e hhere]
    exact keyBefore_irrefl key
  · exact keyBefore_asymm (hc.after e hafter)

/-- The entry at the cut is the only one that has the key. -/
theorem mem_iff_of_key (hc : Cut key l before here after) {e : Entry} (hkey : e.key = key) :
    e ∈ l ↔ here = some e := by
  rw [hc.eq, List.mem_append, List.mem_append, Option.mem_toList]
  constructor
  · rintro (hb | hh | ha)
    · exact absurd hkey (ne_of_keyBefore (hc.before e hb))
    · exact hh
    · exact absurd hkey.symm (ne_of_keyBefore (hc.after e ha))
  · exact fun hh => Or.inr (Or.inl hh)

/-- The other entries stand before the cut or after it. -/
theorem mem_iff_of_ne (hc : Cut key l before here after) {e : Entry} (hkey : e.key ≠ key) :
    e ∈ l ↔ e ∈ before ++ after := by
  rw [hc.eq, List.mem_append, List.mem_append, List.mem_append, Option.mem_toList]
  constructor
  · rintro (hb | hh | ha)
    · exact Or.inl hb
    · exact absurd (hc.here e hh) hkey
    · exact Or.inr ha
  · exact Or.imp_right Or.inr

theorem put (hc : Cut key l before here after) {other : Option Entry}
    (hother : ∀ e, other = some e → e.key = key) :
    Cut key (before ++ (other.toList ++ after)) before other after :=
  ⟨rfl, hc.before, hother, hc.after⟩

theorem ascending_put (hc : Cut key l before here after) (hl : Ascending l) {other : Option Entry}
    (hother : ∀ e, other = some e → e.key = key) : Ascending (before ++ (other.toList ++ after)) := by
  rw [hc.eq] at hl
  obtain ⟨hbefore, hrest, hcross⟩ := List.pairwise_append.mp hl
  obtain ⟨-, hafter, -⟩ := List.pairwise_append.mp hrest
  refine List.pairwise_append.mpr ⟨hbefore, List.pairwise_append.mpr ⟨?_, hafter, ?_⟩, ?_⟩
  · cases other with
    | none => exact List.Pairwise.nil
    | some e => exact List.pairwise_singleton _ e
  · intro e he x hx
    rw [hother e (Option.mem_toList.mp he)]
    exact hc.after x hx
  · intro e he x hx
    rcases List.mem_append.mp hx with ho | ha
    · rw [hother x (Option.mem_toList.mp ho)]
      exact hc.before e he
    · exact hcross e he x (List.mem_append_right _ ha)

end Cut

namespace Store

/-! ## What a store holds -/

/-- The store holds these entries: the index names each of them once, in the order of the keys, and no
other record is in use. -/
structure Lists (s : Store) (l : List Entry) : Prop where
  entries : s.entries.WellFormed
  nodup : s.index.toList.Nodup
  live : ∀ h, h ∈ s.index.toList ↔ s.entries.contains h = true
  resolves : s.index.toList.map s.entries.get? = l.map some
  ascending : Ascending l

namespace Lists

variable {s : Store} {l : List Entry}

theorem size_eq (hs : s.Lists l) : s.size = l.length := by
  have hlength := congrArg List.length hs.resolves
  rw [List.length_map, List.length_map] at hlength
  exact hlength

theorem entryAt?_eq (hs : s.Lists l) (i : Nat) : s.entryAt? i = l[i]? := by
  have hi : (s.index.toList.map s.entries.get?)[i]? = (l.map some)[i]? := by rw [hs.resolves]
  rw [List.getElem?_map, List.getElem?_map, Array.getElem?_toList] at hi
  unfold entryAt?
  cases hindex : s.index[i]? with
  | none =>
    rw [hindex] at hi
    cases hl : l[i]? with
    | none => rfl
    | some e => rw [hl] at hi; cases hi
  | some h =>
    rw [hindex] at hi
    cases hl : l[i]? with
    | none => rw [hl] at hi; cases hi
    | some e =>
      rw [hl] at hi
      exact Option.some.inj hi

theorem toList_eq (hs : s.Lists l) : s.toList = l := by
  unfold Store.toList
  have hmap : s.index.toList.filterMap s.entries.get? =
      (s.index.toList.map s.entries.get?).filterMap id := by
    rw [List.filterMap_map]
    rfl
  rw [hmap, hs.resolves, List.filterMap_map]
  exact List.filterMap_some

theorem keyAt_of_getElem? (hs : s.Lists l) {i : Nat} {e : Entry} (hi : l[i]? = some e) :
    s.keyAt i = e.key := by
  unfold keyAt
  rw [hs.entryAt?_eq, hi]
  rfl

variable {key : String} {before after : List Entry} {here : Option Entry}

/-! ## Bisection -/

/-- **Bisection finds the place of the cut.** -/
theorem rank_of_cut (hs : s.Lists l) (hc : Cut key l before here after) :
    s.rank key = before.length := by
  have hlength : before.length ≤ s.size := by
    rw [hs.size_eq, hc.eq, List.length_append]
    exact Nat.le_add_right _ _
  refine border_eq (Nat.zero_le _) hlength ?_ ?_
  · intro i hi
    have hget : l[i]? = some before[i] := by
      rw [hc.eq, List.getElem?_append_left hi]
      exact List.getElem?_eq_getElem hi
    rw [hs.keyAt_of_getElem? hget]
    exact hc.before _ (List.getElem_mem hi)
  · intro i hi hsize
    rw [hs.size_eq] at hsize
    have hget : l[i]? = some l[i] := List.getElem?_eq_getElem hsize
    have hmem : l[i] ∈ here.toList ++ after := by
      refine List.mem_of_getElem? (i := i - before.length) ?_
      rw [← hget, hc.eq, List.getElem?_append_right hi]
    rw [hs.keyAt_of_getElem? hget]
    exact hc.not_before hmem

theorem getElem?_of_cut (hc : Cut key l before here after) :
    l[before.length]? = (here.toList ++ after).head? := by
  rw [hc.eq, List.getElem?_append_right (Nat.le_refl _), Nat.sub_self, List.head?_eq_getElem?]

theorem contains_of_cut (hs : s.Lists l) (hc : Cut key l before here after) :
    s.contains key = here.isSome := by
  have hget := getElem?_of_cut hc
  unfold contains
  rw [hs.rank_of_cut hc, hs.size_eq]
  cases here with
  | some e =>
    have hlt : before.length < l.length := (List.getElem?_eq_some_iff.mp hget).1
    rw [hs.keyAt_of_getElem? hget, hc.here e rfl]
    simp [hlt]
  | none =>
    cases after with
    | nil =>
      have hge : l.length ≤ before.length := List.getElem?_eq_none_iff.mp hget
      simp [Nat.not_lt.mpr hge]
    | cons e rest =>
      have hne : e.key ≠ key := (ne_of_keyBefore (hc.after e List.mem_cons_self)).symm
      rw [hs.keyAt_of_getElem? hget]
      simp [hne]

/-- **A lookup gives the entry at the cut.** -/
theorem find_of_cut (hs : s.Lists l) (hc : Cut key l before here after) :
    s.find (some key) = here := by
  unfold find
  dsimp only
  rw [hs.contains_of_cut hc, hs.rank_of_cut hc, hs.entryAt?_eq, getElem?_of_cut hc]
  cases here <;> rfl

/-- **The successor of a key is the first entry after the cut.** -/
theorem next_of_cut (hs : s.Lists l) (hc : Cut key l before here after) :
    s.next (some key) = after.head? := by
  unfold next
  dsimp only
  rw [hs.contains_of_cut hc, hs.rank_of_cut hc, hs.entryAt?_eq]
  cases here with
  | none => exact getElem?_of_cut hc
  | some e =>
    rw [if_pos (show (some e).isSome = true from rfl), hc.eq,
      List.getElem?_append_right (Nat.le_succ _), Nat.succ_sub (Nat.le_refl _), Nat.sub_self,
      List.head?_eq_getElem?]
    rfl

end Lists

end Store

end EventLoop
