import EventLoop.Proofs.Store.Records
import EventLoop.Proofs.Store.Walk

/-!
# The buffers of a store

A blob or string goes into the buffer that its entry has, or into a new one of its size. What an entry holds is
told by the values that its key was given since it was inserted; no other key and no record matters.

* `find_set`, `find_remove`, `find_clear` — what a call does to the entry of every key.
* `Store.given` — the values that a key was given since it was inserted, the latest first.
* `longest` — the most bytes among the blobs and strings that such a list begins with.
* `tracks_call` — each call keeps the entry in step with that list (`Store.Tracks`).
* `buffers_follow_history` — the value and the buffer of every entry, after any calls.
-/

namespace EventLoop

namespace Store

variable {s s' : Store} {l before after : List Entry} {here other : Option Entry} {key : String}

/-! ## One call, seen from a key -/

theorem Lists.find_eq_some_iff (hs : s.Lists l) {e : Entry} :
    s.find (some key) = some e ↔ e ∈ l ∧ e.key = key := by
  constructor
  · intro hfind
    obtain ⟨before, here, after, hc⟩ := exists_cut key hs.ascending
    rw [hs.find_of_cut hc] at hfind
    have hkey := hc.here e hfind
    exact ⟨(hc.mem_iff_of_key hkey).mpr hfind, hkey⟩
  · rintro ⟨hmem, rfl⟩
    exact hs.find_of_mem hmem

/-- Only the entry at the cut is another one. -/
theorem Lists.find_put (hs : s.Lists l) (hc : Cut key l before here after)
    (hother : ∀ e, other = some e → e.key = key) (hs' : s'.Lists (before ++ (other.toList ++ after)))
    (k : String) : s'.find (some k) = if k = key then other else s.find (some k) := by
  have hc' := hc.put hother
  by_cases hk : k = key
  · subst hk
    rw [if_pos rfl, hs'.find_of_cut hc']
  · rw [if_neg hk]
    ext e
    rw [hs'.find_eq_some_iff, hs.find_eq_some_iff]
    refine and_congr_left ?_
    rintro rfl
    rw [hc'.mem_iff_of_ne hk, hc.mem_iff_of_ne hk]

/-- **A write gives its key another entry, or fails and leaves every key the one that it has.** -/
theorem find_set (hs : s.Lists l) (memory : Memory) (key : String) {v : Value} (hv : v ≠ .void) :
    (∃ e, (s.set memory (some key) v).1.isOk = true ∧ e.Replaces (s.find (some key)) key v ∧
        ∀ k, (s.set memory (some key) v).2.find (some k) = if k = key then some e else s.find (some k)) ∨
      (s.set memory (some key) v).1.isOk = false ∧
        ∀ k, (s.set memory (some key) v).2.find (some k) = s.find (some k) := by
  obtain ⟨before, here, after, hc⟩ := exists_cut key hs.ascending
  rcases set_of_cut hs hc memory hv with ⟨e, hok, hnew, hlists⟩ | ⟨hfail, hlists⟩
  · refine Or.inl ⟨e, by rw [hok]; rfl, ?_, hs.find_put hc ?_ hlists⟩
    · rw [hs.find_of_cut hc]
      exact hnew
    · rintro _ ⟨⟩
      exact hnew.key_eq
  · refine Or.inr ⟨hfail, fun k => ?_⟩
    ext e
    rw [hlists.find_eq_some_iff, hs.find_eq_some_iff]

theorem find_remove (hs : s.Lists l) (key k : String) :
    (s.remove key).2.find (some k) = if k = key then none else s.find (some k) := by
  obtain ⟨before, here, after, hc⟩ := exists_cut key hs.ascending
  have hnone : ∀ e, (none : Option Entry) = some e → e.key = key := nofun
  exact hs.find_put hc hnone (remove_of_cut hs hc).2 k

theorem find_clear (hs : s.Lists l) (k : String) : s.clear.find (some k) = none := by
  rw [Option.eq_none_iff_forall_ne_some]
  intro e he
  cases ((lists_clear hs).find_eq_some_iff.mp he).1

end Store

/-! ## The history of a key -/

/-- What a call that succeeds makes of the values that a key was given since it was inserted. -/
def StoreCall.onKey (key : String) : StoreCall → List Value → List Value
  | set _ none _, _ => []
  | set _ (some k) v, vs => if k = key then if v = .void then [] else v :: vs else vs
  | remove k, vs => if k = key then [] else vs
  | clear, _ => []

/-- The most bytes among the blobs and strings that a list begins with. -/
def longest (vs : List Value) : Nat :=
  ((vs.takeWhile fun v => v.bufferSize?.isSome).filterMap Value.bufferSize?).foldr max 0

theorem longest_cons_of_none {v : Value} (hv : v.bufferSize? = none) (vs : List Value) :
    longest (v :: vs) = 0 := by
  rw [longest, List.takeWhile_cons, hv]
  rfl

theorem longest_cons_of_some {v : Value} {size : Nat} (hv : v.bufferSize? = some size) (vs : List Value) :
    longest (v :: vs) = max size (longest vs) := by
  rw [longest, List.takeWhile_cons, hv, Option.isSome_some, if_pos rfl, List.filterMap_cons_some hv]
  rfl

namespace Store

/-- The values that a key was given since it was inserted, the latest first, when some calls are made after
those that the list tells of. -/
def given (s : Store) (key : String) (vs : List Value) : List StoreCall → List Value
  | [] => vs
  | c :: rest => given (s.call c).2 key (if (s.call c).1.isOk then c.onKey key vs else vs) rest

/-- The entry of a key holds the latest value that it was given, in a buffer for the longest. -/
structure Tracks (s : Store) (key : String) (vs : List Value) : Prop where
  value : (s.find (some key)).map Entry.value = vs.head?
  room : ∀ e, s.find (some key) = some e → e.room = longest vs

variable {s s' : Store} {l : List Entry} {key : String} {vs : List Value} {v : Value}

theorem Tracks.congr (h : s.Tracks key vs) (hfind : s'.find (some key) = s.find (some key)) :
    s'.Tracks key vs :=
  ⟨by rw [hfind]; exact h.value, by rw [hfind]; exact h.room⟩

theorem tracks_nil (hfind : s.find (some key) = none) : s.Tracks key [] := by
  refine ⟨by rw [hfind]; rfl, fun e he => ?_⟩
  rw [hfind] at he
  cases he

/-- The buffer of an entry is as large as the values before need it, if there is one. -/
theorem Tracks.roomAfter_eq (h : s.Tracks key vs) (v : Value) :
    ((s.find (some key)).getD .blank).roomAfter v = longest (v :: vs) := by
  unfold Entry.roomAfter
  cases hsize : v.bufferSize? with
  | none => rw [longest_cons_of_none hsize]
  | some size =>
    rw [longest_cons_of_some hsize]
    have hvalue := h.value
    cases hfind : s.find (some key) with
    | none =>
      rw [hfind] at hvalue
      rw [List.head?_eq_none_iff.mp hvalue.symm]
      exact (Nat.max_zero size).symm
    | some e =>
      rw [hfind] at hvalue
      obtain ⟨rest, rfl⟩ := List.head?_eq_some_iff.mp hvalue.symm
      have hroom := h.room e hfind
      dsimp only [Option.getD_some]
      split
      · rw [hroom]
      · next hbuffer =>
        -- the latest value had no buffer, so there is none to be kept
        have hnone : e.value.bufferSize? = none := by simpa using hbuffer
        rw [longest_cons_of_none hnone, Nat.max_zero]

theorem Tracks.set (h : s.Tracks key vs) {e : Entry} (hnew : e.Replaces (s.find (some key)) key v)
    (hfind : s'.find (some key) = some e) : s'.Tracks key (v :: vs) := by
  refine ⟨?_, ?_⟩
  · rw [hfind, List.head?_cons, Option.map_some, hnew.value_eq]
  · intro e' he'
    rw [hfind] at he'
    cases he'
    rw [hnew.room_eq, h.roomAfter_eq]

theorem tracks_remove (hs : s.Lists l) (h : s.Tracks key vs) (k : String) :
    (s.remove k).2.Tracks key (if k = key then [] else vs) := by
  have hfind := find_remove hs k key
  by_cases hk : k = key
  · rw [if_pos hk.symm] at hfind
    rw [if_pos hk]
    exact tracks_nil hfind
  · rw [if_neg (Ne.symm hk)] at hfind
    rw [if_neg hk]
    exact h.congr hfind

theorem tracks_set (hs : s.Lists l) (h : s.Tracks key vs) (memory : Memory) (k : String) (hv : v ≠ .void) :
    (s.set memory (some k) v).2.Tracks key
      (if (s.set memory (some k) v).1.isOk then if k = key then v :: vs else vs else vs) := by
  rcases find_set hs memory k hv with ⟨e, hok, hnew, hfind⟩ | ⟨hfail, hfind⟩
  · rw [hok, if_pos rfl]
    have hkey := hfind key
    by_cases hk : k = key
    · subst hk
      rw [if_pos rfl] at hkey ⊢
      exact h.set hnew hkey
    · rw [if_neg (Ne.symm hk)] at hkey
      rw [if_neg hk]
      exact h.congr hkey
  · rw [hfail]
    exact h.congr (hfind key)

/-- **One call keeps the entry of a key in step with the values that the key was given.** -/
theorem tracks_call (hs : s.Lists l) (h : s.Tracks key vs) (c : StoreCall) :
    (s.call c).2.Tracks key (if (s.call c).1.isOk then c.onKey key vs else vs) := by
  cases c with
  | remove k => exact tracks_remove hs h k
  | clear => exact tracks_nil (find_clear hs key)
  | set memory k v =>
    by_cases hv : v = .void
    · subst hv
      cases k with
      | none => exact tracks_nil (find_clear hs key)
      | some k => exact tracks_remove hs h k
    · cases k with
      | none =>
        have hfail : s.set memory none v = (.error .missingKey, s) := by
          cases v <;> first | exact absurd rfl hv | rfl
        rw [call, hfail]
        exact h
      | some k =>
        have honkey : (StoreCall.set memory (some k) v).onKey key vs = if k = key then v :: vs else vs := by
          rw [StoreCall.onKey, if_neg hv]
        rw [honkey]
        exact tracks_set hs h memory k hv

/-- The induction is on the calls. -/
theorem tracks_after (cs : List StoreCall) {s : Store} {m : Bindings} {vs : List Value} (hs : s.Models m)
    (h : s.Tracks key vs) : (s.after cs).Tracks key (s.given key vs cs) := by
  induction cs generalizing s m vs with
  | nil => exact h
  | cons c rest ih =>
    obtain ⟨l, hl, -⟩ := id hs
    exact ih (models_call hs c) (tracks_call hl h c)

/-! ## The value and the buffer of every entry -/

/-- What the entries and the spare records of a store hold after some calls. -/
structure Buffers (s : Store) (cs : List StoreCall) : Prop where
  /-- A key has an entry if it was given a value since it was last deleted. That is the last one, and no
  more and no less. -/
  value : ∀ key, ((s.after cs).find (some key)).map Entry.value = (s.given key [] cs).head?
  /-- Its buffer has room for the longest of the blobs and strings that the key was given since it was inserted
  or held a value of another kind. A value of another kind has none. -/
  room : ∀ key e, (s.after cs).find (some key) = some e → e.room = longest (s.given key [] cs)
  /-- What is written or deleted under another key is nothing to an entry. -/
  others : ∀ memory k v key, k ≠ key →
    ((s.after cs).set memory (some k) v).2.find (some key) = (s.after cs).find (some key) ∧
      ((s.after cs).remove k).2.find (some key) = (s.after cs).find (some key)
  /-- A record that waits for an insertion has no buffer. -/
  spare : ∀ (i : Nat) slot, (s.after cs).entries.slots[i]? = some slot → slot.active = false →
    slot.value = .blank

theorem find_of_ne (hs : s.Lists l) (memory : Memory) {k key : String} (v : Value) (hk : k ≠ key) :
    (s.set memory (some k) v).2.find (some key) = s.find (some key) ∧
      (s.remove k).2.find (some key) = s.find (some key) := by
  have hremove : (s.remove k).2.find (some key) = s.find (some key) := by
    rw [find_remove hs, if_neg (Ne.symm hk)]
  refine ⟨?_, hremove⟩
  by_cases hv : v = .void
  · subst hv
    exact hremove
  · rcases find_set hs memory k hv with ⟨e, -, -, hfind⟩ | ⟨-, hfind⟩
    · rw [hfind, if_neg (Ne.symm hk)]
    · exact hfind key

/-- **The value and the buffer of every entry follow from what its own key was given since it was inserted.** -/
theorem buffers_follow_history {s : Store} (h : s.Initial) (cs : List StoreCall) : s.Buffers cs := by
  have hs := lists_of_initial h
  have hnone : ∀ key, s.find (some key) = none := by
    intro key
    rw [Option.eq_none_iff_forall_ne_some]
    intro e he
    cases (hs.find_eq_some_iff.mp he).1
  have htracks : ∀ key, (s.after cs).Tracks key (s.given key [] cs) := fun key =>
    tracks_after cs (models_of_initial h) (tracks_nil (hnone key))
  obtain ⟨m, l, hl, -⟩ := exists_models_after (models_of_initial h) cs
  exact ⟨fun key => (htracks key).value, fun key => (htracks key).room,
    fun memory k v key hk => find_of_ne hl memory v hk,
    fun i slot hslot ha => Entry.eq_blank_of_isIdle (hl.entries.idle i slot hslot ha)⟩

/-- A shorter payload in the buffer of a longer one, a longer one for which there is no room, and a payload under a
key that had a longer one before it was deleted. -/
def refilling : List StoreCall :=
  [.set .unbounded (some "k") (.blob [1, 2, 3, 4]), .set .unbounded (some "k") (.string "ab"),
    .set (.ofBlocks 4) (some "k") (.blob [5, 6, 7, 8, 9]), .set .unbounded (some "m") (.string "long"),
    .remove "m", .set .unbounded (some "m") (.string "x")]

theorem buffers_follow_history_refilling :
    Store.empty.Initial ∧ Store.empty.Buffers refilling ∧
      (Store.empty.after refilling).find (some "k") =
        some { key := "k", value := .string "ab", room := 4 } ∧
      (Store.empty.after refilling).find (some "m") =
        some { key := "m", value := .string "x", room := 1 } :=
  ⟨.empty, buffers_follow_history .empty refilling, by decide +kernel, by decide +kernel⟩

end Store

end EventLoop
