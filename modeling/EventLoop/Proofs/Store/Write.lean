import EventLoop.Proofs.Store.Search

/-!
# Writing entries by key

Every write puts an entry at the cut of its key, or takes the one there away. All other entries stay as they
are, and so does everything if the write fails.

* `Entry.Replaces` — the entry that a write puts in the place of another one, or of none.
* `remove_of_cut`, `update_of_cut`, `insertAt_of_cut` — the three ways to change what stands at a cut.
* `set_of_cut` — what comes of a write, whether or not the key is there.
* `lists_clear` — what comes of deleting all entries.
-/

namespace EventLoop

/-! ## Entries -/

namespace Entry

/-- The room of an entry after a value was written to it: a buffer is kept while it is large enough. -/
def roomAfter (e : Entry) (v : Value) : Nat :=
  match v.bufferSize? with
  | none => 0
  | some size => if e.value.bufferSize?.isSome then max size e.room else size

/-- The entry holds a value under a key, in the buffer of the one that was there before, if any. -/
structure Replaces (e : Entry) (old : Option Entry) (key : String) (v : Value) : Prop where
  key_eq : e.key = key
  value_eq : e.value = v
  room_eq : e.room = (old.getD .blank).roomAfter v

theorem roomFor_ok {memory : Memory} {e : Entry} {v : Value} {room : Nat}
    (h : e.roomFor memory v = .ok room) : room = e.roomAfter v := by
  unfold roomFor at h
  unfold roomAfter
  cases hsize : v.bufferSize? with
  | none =>
    rw [hsize] at h
    cases h
    rfl
  | some size =>
    rw [hsize] at h
    dsimp only at h ⊢
    split at h
    · next hfits =>
      cases h
      simp only [Bool.and_eq_true, decide_eq_true_eq] at hfits
      rw [if_pos hfits.1, Nat.max_eq_right hfits.2]
    · next hfits =>
      split at h
      · cases h
        split
        · next hbuffer =>
          have hlarger : ¬room ≤ e.room := fun hle => hfits (by simp [hbuffer, hle])
          omega
        · rfl
      · cases h

theorem install_ok {memory : Memory} {e e' : Entry} {v : Value} (h : e.install memory v = .ok e') :
    e'.Replaces (some e) e.key v := by
  unfold install at h
  cases hroom : e.roomFor memory v with
  | error err =>
    rw [hroom] at h
    cases h
  | ok room =>
    rw [hroom] at h
    cases h
    exact ⟨rfl, rfl, roomFor_ok hroom⟩

/-- A record that waits has nothing left of an earlier key, its value and its buffer. -/
theorem eq_blank_of_isIdle {e : Entry} (h : Pool.IsIdle e) : e = .blank := by
  rcases h with rfl | ⟨w, rfl⟩
  · rfl
  · rfl

theorem fill_ok {memory : Memory} {e : Entry} {key : String} {v : Value}
    (h : Entry.blank.fill memory key v = .ok e) : e.Replaces none key v := by
  unfold fill at h
  split at h
  · have hwritten := install_ok h
    exact ⟨hwritten.key_eq.trans String.empty_append, hwritten.value_eq, hwritten.room_eq⟩
  · cases h

end Entry

namespace Store

variable {s : Store} {l before after : List Entry} {here : Option Entry} {key : String}

/-! ## Handles at a cut -/

/-- The index of a store, cut where its entries are. -/
structure Split (s : Store) (before : List Entry) (here : Option Entry) (after : List Entry)
    (hb hx ha : List Handle) : Prop where
  index : s.index.toList = hb ++ (hx ++ ha)
  before : hb.map s.entries.get? = before.map some
  here : hx.map s.entries.get? = here.toList.map some
  after : ha.map s.entries.get? = after.map some

theorem Lists.exists_split (hs : s.Lists l) (hc : Cut key l before here after) :
    ∃ hb hx ha, s.Split before here after hb hx ha := by
  have hmap := hs.resolves
  rw [hc.eq, List.map_append, List.map_append] at hmap
  obtain ⟨hb, hrest, heq, hbefore, hmap'⟩ := List.map_eq_append_iff.mp hmap
  obtain ⟨hx, ha, rfl, hhere, hafter⟩ := List.map_eq_append_iff.mp hmap'
  exact ⟨hb, hx, ha, heq, hbefore, hhere, hafter⟩

theorem Split.length_eq {hb hx ha : List Handle} (hsp : s.Split before here after hb hx ha) :
    hb.length = before.length := by
  have hlength := congrArg List.length hsp.before
  rwa [List.length_map, List.length_map] at hlength

theorem Split.exists_handle {e : Entry} {hb hx ha : List Handle}
    (hsp : s.Split before (some e) after hb hx ha) : ∃ h, hx = [h] ∧ s.entries.get? h = some e := by
  obtain ⟨h, rest, rfl, hget, hnil⟩ := List.map_eq_cons_iff.mp hsp.here
  exact ⟨h, by rw [List.map_eq_nil_iff.mp hnil], hget⟩

theorem Split.getElem?_index {hb ha : List Handle} {h : Handle}
    (hsp : s.Split before here after hb [h] ha) : s.index[before.length]? = some h := by
  rw [← Array.getElem?_toList, hsp.index, ← hsp.length_eq, List.getElem?_append_right (Nat.le_refl _),
    Nat.sub_self]
  rfl

/-- What the handles resolve to when the ones before and after the cut are left alone. -/
theorem Split.resolves {hb hx ha hx' : List Handle} (hsp : s.Split before here after hb hx ha)
    {entries : Pool Entry} {other : Option Entry}
    (hkeep : ∀ k ∈ hb ++ ha, entries.get? k = s.entries.get? k)
    (hother : hx'.map entries.get? = other.toList.map some) :
    (hb ++ (hx' ++ ha)).map entries.get? = (before ++ (other.toList ++ after)).map some := by
  have hleft : hb.map entries.get? = before.map some := by
    rw [← hsp.before]
    exact List.map_congr_left fun k hk => hkeep k (List.mem_append_left _ hk)
  have hright : ha.map entries.get? = after.map some := by
    rw [← hsp.after]
    exact List.map_congr_left fun k hk => hkeep k (List.mem_append_right _ hk)
  rw [List.map_append, List.map_append, hleft, hother, hright, List.map_append, List.map_append]

theorem nodup_split {hb ha : List Handle} {h : Handle} (hnd : (hb ++ ([h] ++ ha)).Nodup) :
    (hb ++ ha).Nodup ∧ h ∉ hb ++ ha := by
  have hperm : (hb ++ ([h] ++ ha)).Perm (h :: (hb ++ ha)) := List.perm_middle
  obtain ⟨hnot, hnd'⟩ := List.nodup_cons.mp (hperm.nodup_iff.mp hnd)
  exact ⟨hnd', hnot⟩

/-- A change that no handle can see. -/
theorem Lists.congr (hs : s.Lists l) {entries : Pool Entry} (hwf : entries.WellFormed)
    (hget : ∀ k, entries.get? k = s.entries.get? k) : Store.Lists { s with entries } l := by
  refine ⟨hwf, hs.nodup, fun k => ?_, ?_, hs.ascending⟩
  · rw [Pool.contains, hget]
    exact hs.live k
  · rw [← hs.resolves]
    exact List.map_congr_left fun k _ => hget k

/-! ## Deleting -/

/-- A record is given back, and its handle is taken out of the index. -/
theorem Lists.drop (hs : s.Lists l) (hasc : Ascending (before ++ after)) {hb ha : List Handle} {h : Handle}
    (hsp : s.Split before here after hb [h] ha) {entries : Pool Entry} (hd : s.entries.Drops h entries)
    {index : Array Handle} (hindex : index.toList = hb ++ ha) :
    Store.Lists { entries, index } (before ++ after) := by
  have hnodup := hs.nodup
  rw [hsp.index] at hnodup
  obtain ⟨hnd, hnot⟩ := nodup_split hnodup
  have hkeep : ∀ k ∈ hb ++ ha, entries.get? k = s.entries.get? k := by
    intro k hk
    rw [hd.get?, if_neg]
    rintro rfl
    exact hnot hk
  refine ⟨hd.wellFormed, ?_, ?_, ?_, hasc⟩
  · rw [hindex]
    exact hnd
  · intro k
    have hlive := hs.live k
    rw [hindex, Pool.contains, hd.get?]
    rw [hsp.index, List.mem_append, List.mem_append, List.mem_singleton] at hlive
    by_cases hk : k = h
    · subst hk
      simpa using hnot
    · rw [if_neg hk]
      simpa [hk, List.mem_append, Pool.contains] using hlive
  · rw [hindex]
    exact @Split.resolves _ _ _ _ _ _ _ [] hsp _ none hkeep rfl

/-- **Deleting takes away what stands at the cut, and says whether anything did.** -/
theorem remove_of_cut (hs : s.Lists l) (hc : Cut key l before here after) :
    (s.remove key).1 = here.isSome ∧ (s.remove key).2.Lists (before ++ after) := by
  have hasc := @Cut.ascending_put _ _ _ _ _ hc hs.ascending none nofun
  unfold remove
  rw [hs.contains_of_cut hc]
  cases here with
  | none =>
    have heq : l = before ++ after := hc.eq
    rw [← heq]
    exact ⟨rfl, hs⟩
  | some e =>
    obtain ⟨hb, hx, ha, hsp⟩ := hs.exists_split hc
    obtain ⟨h, rfl, hget⟩ := hsp.exists_handle
    have herase : (s.index.eraseIdxIfInBounds before.length).toList = hb ++ ha := by
      rw [Array.toList_eraseIdxIfInBounds, hsp.index, ← hsp.length_eq,
        List.eraseIdx_append_of_length_le (Nat.le_refl _), Nat.sub_self]
      rfl
    rw [if_pos (show (some e).isSome = true from rfl), hs.rank_of_cut hc]
    dsimp only
    rw [hsp.getElem?_index]
    have hdrop := Pool.drops_of_discard hs.entries (Pool.contains_eq_true.mpr ⟨e, hget⟩)
    exact ⟨rfl, hs.drop hasc hsp hdrop herase⟩

/-! ## Writing in place -/

/-- **Writing to an entry changes its value, or nothing.** -/
theorem update_of_cut (hs : s.Lists l) {e : Entry} (hc : Cut key l before (some e) after)
    (memory : Memory) (v : Value) {h : Handle} (hat : s.index[s.rank key]? = some h) :
    (∃ e', (s.update memory h v).1 = .ok () ∧ e'.Replaces (some e) key v ∧
        (s.update memory h v).2.Lists (before ++ ((some e').toList ++ after))) ∨
      ∃ err, s.update memory h v = (.error err, s) := by
  obtain ⟨hb, hx, ha, hsp⟩ := hs.exists_split hc
  obtain ⟨k, rfl, hget⟩ := hsp.exists_handle
  have hindex := hsp.index
  have hnodup := hs.nodup
  rw [hindex] at hnodup
  obtain ⟨-, hnot⟩ := nodup_split hnodup
  obtain rfl : k = h := by
    rw [hs.rank_of_cut hc, hsp.getElem?_index] at hat
    exact Option.some.inj hat
  unfold update
  rw [hget]
  dsimp only
  cases hinstall : e.install memory v with
  | error err => exact Or.inr ⟨err, rfl⟩
  | ok e' =>
    have hnew : e'.Replaces (some e) key v := hc.here e rfl ▸ Entry.install_ok hinstall
    have hlists := @Cut.ascending_put _ _ _ _ _ hc hs.ascending (some e') (by rintro _ ⟨⟩; exact hnew.key_eq)
    have hwrites := Pool.writes_of_modify hs.entries k fun _ => e'
    have hkeep : ∀ x ∈ hb ++ ha, (s.entries.modify k fun _ => e').get? x = s.entries.get? x := by
      intro x hx
      rw [Pool.get?_modify, if_neg]
      rintro rfl
      exact hnot hx
    refine Or.inl ⟨e', rfl, hnew, hwrites.wellFormed, hs.nodup, ?_, ?_, hlists⟩
    · intro x
      rw [hs.live x, Pool.contains, Pool.contains, hwrites.get?, Option.isSome_map]
    · show s.index.toList.map _ = _
      rw [hindex]
      refine hsp.resolves hkeep ?_
      rw [List.map_singleton, Pool.get?_modify, if_pos rfl, hget]
      rfl

/-! ## Inserting -/

theorem insertIdx_append_length {β : Type} (a b : List β) (x : β) :
    (a ++ b).insertIdx a.length x = a ++ x :: b := by
  induction a with
  | nil => rfl
  | cons y rest ih => exact congrArg (y :: ·) ih

/-- A record is taken, and its handle is put into the index. -/
theorem Lists.add (hs : s.Lists l) {e : Entry} (hasc : Ascending (before ++ ((some e).toList ++ after)))
    {hb ha : List Handle} {h : Handle} (hsp : s.Split before none after hb [] ha) {entries : Pool Entry}
    (hadds : s.entries.Adds h e entries) {index : Array Handle} (hindex : index.toList = hb ++ ([h] ++ ha)) :
    Store.Lists { entries, index } (before ++ ((some e).toList ++ after)) := by
  have hold : s.index.toList = hb ++ ha := hsp.index
  have habsent : h ∉ s.index.toList := by
    rw [hs.live, Pool.contains, hadds.absent]
    exact Bool.false_ne_true
  have hkeep : ∀ k ∈ hb ++ ha, entries.get? k = s.entries.get? k := by
    intro k hk
    rw [hadds.get?, if_neg]
    rintro rfl
    exact habsent (hold ▸ hk)
  have hperm : (hb ++ ([h] ++ ha)).Perm (h :: (hb ++ ha)) := List.perm_middle
  refine ⟨hadds.wellFormed, ?_, ?_, ?_, hasc⟩
  · rw [hindex, hperm.nodup_iff, ← hold]
    exact List.nodup_cons.mpr ⟨habsent, hs.nodup⟩
  · intro k
    rw [hindex, hperm.mem_iff, List.mem_cons, ← hold, hs.live, Pool.contains, Pool.contains, hadds.get?]
    by_cases hk : k = h
    · simp [hk]
    · simp [hk]
  · rw [hindex]
    refine hsp.resolves hkeep ?_
    rw [List.map_singleton, hadds.get?, if_pos rfl]
    rfl

/-- A record that is taken and given back again. -/
theorem Lists.discard (hs : s.Lists l) {h : Handle} {e : Entry} {entries : Pool Entry}
    (hadds : s.entries.Adds h e entries) : Store.Lists { s with entries := entries.discard h } l := by
  obtain ⟨hwf, hget⟩ := Pool.get?_discard hadds.wellFormed h
  refine hs.congr hwf fun k => ?_
  rw [hget, hadds.get?]
  split
  · next hk => rw [hk, hadds.absent]
  · rfl

/-- **An insert puts a new entry at the cut, or leaves all entries as they were.** -/
theorem insertAt_of_cut (hs : s.Lists l) (hc : Cut key l before none after) (memory : Memory) (v : Value) :
    (∃ e, (s.insertAt memory (s.rank key) key v).1 = .ok () ∧ e.Replaces none key v ∧
        (s.insertAt memory (s.rank key) key v).2.Lists (before ++ ((some e).toList ++ after))) ∨
      (s.insertAt memory (s.rank key) key v).1.isOk = false ∧
        (s.insertAt memory (s.rank key) key v).2.Lists l := by
  rw [hs.rank_of_cut hc]
  unfold insertAt
  split
  · cases hacq : s.entries.acquire memory with
    | error err => exact Or.inr ⟨rfl, hs⟩
    | ok p =>
      obtain ⟨h, entries⟩ := p
      obtain ⟨w, hidle, hadds⟩ := Pool.adds_of_acquire hs.entries hacq
      have hgot : (entries.get? h).getD .blank = w := by
        rw [hadds.get?, if_pos rfl]
        rfl
      obtain rfl := Entry.eq_blank_of_isIdle hidle
      dsimp only
      rw [hgot]
      cases hfill : Entry.blank.fill memory key v with
      | error err => exact Or.inr ⟨rfl, hs.discard hadds⟩
      | ok e =>
        have hnew := Entry.fill_ok hfill
        have hasc := @Cut.ascending_put _ _ _ _ _ hc hs.ascending (some e) (by rintro _ ⟨⟩; exact hnew.key_eq)
        obtain ⟨hb, hx, ha, hsp⟩ := hs.exists_split hc
        obtain rfl : hx = [] := List.map_eq_nil_iff.mp hsp.here
        have hindex : s.index.toList = hb ++ ha := hsp.index
        have hle : before.length ≤ s.index.size := by
          rw [← hsp.length_eq, ← Array.length_toList, hindex, List.length_append]
          exact Nat.le_add_right _ _
        have hinsert : (s.index.insertIdxIfInBounds before.length h).toList = hb ++ ([h] ++ ha) := by
          unfold Array.insertIdxIfInBounds
          rw [dif_pos hle, Array.toList_insertIdx, ← hsp.length_eq, hindex]
          exact insertIdx_append_length hb ha h
        exact Or.inl ⟨e, rfl, hnew, hs.add hasc hsp (hadds.modify fun _ => e) hinsert⟩
  · exact Or.inr ⟨rfl, hs⟩

/-! ## All writes -/

/-- A value goes to the entry that has its key, … -/
theorem set_eq_of_contains (memory : Memory) {v : Value} (hv : v ≠ .void) (hkey : s.contains key = true) :
    s.set memory (some key) v =
      match s.index[s.rank key]? with
      | some h => s.update memory h v
      | none => (.ok (), s) := by
  cases v <;> first | exact absurd rfl hv | exact if_pos hkey

theorem set_of_contains (hs : s.Lists l) (memory : Memory) {v : Value} (hv : v ≠ .void)
    (hkey : s.contains key = true) :
    ∃ h e, s.find (some key) = some e ∧ s.entries.get? h = some e ∧
      s.set memory (some key) v = s.update memory h v := by
  obtain ⟨before, here, after, hc⟩ := exists_cut key hs.ascending
  have hhere := hkey
  rw [hs.contains_of_cut hc, Option.isSome_iff_exists] at hhere
  obtain ⟨e, rfl⟩ := hhere
  obtain ⟨hb, hx, ha, hsp⟩ := hs.exists_split hc
  obtain ⟨h, rfl, hget⟩ := hsp.exists_handle
  refine ⟨h, e, hs.find_of_cut hc, hget, ?_⟩
  rw [set_eq_of_contains memory hv hkey, hs.rank_of_cut hc, hsp.getElem?_index]

/-- … or to a new one. -/
theorem set_of_not_contains (memory : Memory) {v : Value} (hv : v ≠ .void) (hkey : s.contains key = false) :
    s.set memory (some key) v = s.insertAt memory (s.rank key) key v := by
  cases v <;> first | exact absurd rfl hv | exact if_neg (by simp [hkey])

/-- **A write puts an entry with the value at the cut, or fails and leaves all entries as they were.** -/
theorem set_of_cut (hs : s.Lists l) (hc : Cut key l before here after) (memory : Memory) {v : Value}
    (hv : v ≠ .void) :
    (∃ e, (s.set memory (some key) v).1 = .ok () ∧ e.Replaces here key v ∧
        (s.set memory (some key) v).2.Lists (before ++ ((some e).toList ++ after))) ∨
      (s.set memory (some key) v).1.isOk = false ∧ (s.set memory (some key) v).2.Lists l := by
  have hcontains := hs.contains_of_cut hc
  cases here with
  | none =>
    rw [set_of_not_contains memory hv hcontains]
    exact insertAt_of_cut hs hc memory v
  | some e =>
    obtain ⟨h, hat⟩ : ∃ h, s.index[s.rank key]? = some h := by
      have hlt : s.rank key < s.index.size := by
        have hlength := hs.size_eq
        rw [hc.eq, List.length_append] at hlength
        rw [hs.rank_of_cut hc, show s.index.size = s.size from rfl, hlength]
        simp
      exact ⟨_, Array.getElem?_eq_getElem hlt⟩
    have hset : s.set memory (some key) v = s.update memory h v := by
      rw [set_eq_of_contains memory hv hcontains, hat]
    rw [hset]
    rcases update_of_cut hs hc memory v hat with hok | ⟨err, herr⟩
    · exact Or.inl hok
    · refine Or.inr ?_
      rw [herr]
      exact ⟨rfl, hs⟩

theorem get?_foldl_discard (l : List Handle) :
    ∀ {p : Pool Entry}, p.WellFormed → (l.foldl Pool.discard p).WellFormed ∧
      ∀ k, (l.foldl Pool.discard p).get? k = if k ∈ l then none else p.get? k := by
  induction l with
  | nil => exact fun hp => ⟨hp, fun k => by simp⟩
  | cons h rest ih =>
    intro p hp
    obtain ⟨hwf, hget⟩ := Pool.get?_discard hp h
    obtain ⟨hwf', hget'⟩ := ih hwf
    refine ⟨hwf', fun k => ?_⟩
    rw [List.foldl_cons, hget', hget]
    by_cases hk : k = h
    · simp [hk]
    · simp [hk]

/-- **Nothing is left when all entries are deleted.** -/
theorem lists_clear (hs : s.Lists l) : s.clear.Lists [] := by
  obtain ⟨hwf, hget⟩ := get?_foldl_discard s.index.toList hs.entries
  have hentries : s.clear.entries = s.index.toList.foldl Pool.discard s.entries :=
    (Array.foldl_toList _).symm
  refine ⟨hentries ▸ hwf, List.nodup_nil, ?_, rfl, List.Pairwise.nil⟩
  intro k
  have hnone : s.clear.entries.get? k = none := by
    rw [hentries, hget]
    split
    · rfl
    · next hk =>
      rw [hs.live] at hk
      simpa [Pool.contains] using hk
  rw [Pool.contains, hnone]
  exact iff_of_false List.not_mem_nil Bool.false_ne_true

/-! ## Stores to start from -/

/-- A store without entries, with no records or with at most 2 ^ 32 spare ones. -/
inductive Initial : Store → Prop where
  | empty : Initial .empty
  | ofCapacity {memory : Memory} {capacity : Nat} {s : Store} (few : capacity ≤ 4294967296)
      (built : Store.ofCapacity memory capacity = .ok s) : Initial s

theorem ofCapacity_cases {memory : Memory} {n : Nat} {s : Store} (h : Store.ofCapacity memory n = .ok s) :
    ∃ entries, Pool.ofCapacity memory n = .ok entries ∧ s = { entries, index := #[] } := by
  unfold Store.ofCapacity at h
  split at h
  · split at h
    · next entries hpool => exact ⟨entries, hpool, (Except.ok.inj h).symm⟩
    · cases h
  · cases h

theorem lists_of_initial (h : s.Initial) : s.Lists [] := by
  cases h with
  | empty =>
    refine ⟨Pool.wellFormed_empty, List.nodup_nil, fun k => ?_, rfl, List.Pairwise.nil⟩
    simp [empty, Pool.contains, Pool.get?, Pool.slot?, Pool.empty]
  | ofCapacity few built =>
    obtain ⟨entries, hpool, rfl⟩ := ofCapacity_cases built
    refine ⟨Pool.wellFormed_ofCapacity few hpool, List.nodup_nil, fun k => ?_, rfl, List.Pairwise.nil⟩
    rw [Pool.contains, Pool.get?_ofCapacity hpool]
    exact iff_of_false List.not_mem_nil Bool.false_ne_true

end Store

end EventLoop
