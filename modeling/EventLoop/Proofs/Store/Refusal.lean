import EventLoop.Proofs.Pool.Calls
import EventLoop.Proofs.Pool.Refusal
import EventLoop.Proofs.Store.Records
import EventLoop.Proofs.Store.Walk

/-!
# Writes that fail

A new key needs a place in the index, a record and room for its bytes; a blob or string needs a buffer, unless
the one of its entry is large enough. A write fails exactly if it is refused one of these, or if it comes without a
key, and whatever it has taken by then is given back.

* `set_isOk_iff` — a write succeeds exactly if nothing is refused (`Store.Granted`).
* `failed_of_set` — the three ways in which a write fails (`Store.Failed`).
* `Lists.undone` — what it leaves behind (`Store.Undone`).
* `set_limited` — an entry that is there is written whatever the bound on the records.
* `failed_set_leaves_no_trace` — all this, for every store that can come about (`Store.Reachable`).
-/

namespace EventLoop

/-! ## What a write asks for -/

namespace Entry

/-- The entry has a buffer of its own that takes so many bytes. -/
def Fits (e : Entry) (size : Nat) : Prop := e.value.bufferSize?.isSome = true ∧ size ≤ e.room

theorem not_fits_blank (size : Nat) : ¬blank.Fits size := fun h => absurd h.1 Bool.false_ne_true

theorem install_isOk_iff {memory : Memory} {e : Entry} {v : Value} :
    (e.install memory v).isOk = true ↔
      ∀ size, v.bufferSize? = some size → e.Fits size ∨ size = 0 ∨ memory.grants .payload size = true := by
  unfold install roomFor
  cases v.bufferSize? with
  | none => simp [Except.map, Except.isOk, Except.toBool]
  | some size =>
    simp only [Option.some.injEq, forall_eq']
    split
    · next hfits =>
      have hfits' : e.Fits size := by simpa [Fits] using hfits
      exact iff_of_true rfl (Or.inl hfits')
    · next hfits =>
      have hfits' : ¬e.Fits size := by simpa [Fits] using hfits
      split
      · next hgrants => exact iff_of_true rfl (Or.inr (by simpa using hgrants))
      · next hgrants =>
        refine iff_of_false Bool.false_ne_true ?_
        rintro (hf | hg)
        · exact hfits' hf
        · exact hgrants (by simpa using hg)

theorem error_of_install {memory : Memory} {e : Entry} {v : Value} {err : StoreError}
    (h : e.install memory v = .error err) : err = .outOfMemory := by
  unfold install roomFor at h
  cases hsize : v.bufferSize? with
  | none =>
    rw [hsize] at h
    cases h
  | some size =>
    rw [hsize] at h
    dsimp only at h
    split at h
    · cases h
    · split at h
      · cases h
      · cases h
        rfl

theorem error_of_fill {memory : Memory} {e : Entry} {key : String} {v : Value} {err : StoreError}
    (h : e.fill memory key v = .error err) : err = .outOfMemory := by
  unfold fill at h
  split at h
  · exact error_of_install h
  · cases h
    rfl

theorem fill_isOk_iff {memory : Memory} {key : String} {v : Value} :
    (blank.fill memory key v).isOk = true ↔
      memory.grants .key key.utf8ByteSize = true ∧
        ∀ size, v.bufferSize? = some size → size = 0 ∨ memory.grants .payload size = true := by
  unfold fill
  split
  · next hkey =>
    rw [install_isOk_iff, and_iff_right hkey]
    refine forall_congr' fun size => imp_congr_right fun _ => ?_
    exact or_iff_right (not_fits_blank size)
  · next hkey => exact iff_of_false Bool.false_ne_true fun h => hkey h.1

end Entry

namespace Store

variable {s : Store} {l : List Entry} {memory : Memory} {key : String} {v : Value}

/-- Nothing is refused that writing a value under a key asks for. -/
structure Granted (memory : Memory) (s : Store) (key : String) (v : Value) : Prop where
  /-- For a key that is not there: a place in the index, a record, spare or new, and room for the key. -/
  index : s.contains key = false → memory.grants .index ((s.size + 1) * Handle.bytes) = true
  record : s.contains key = false → s.entries.spare = [] → s.entries.canGrow memory = true
  name : s.contains key = false → memory.grants .key key.utf8ByteSize = true
  /-- For a blob or string that the buffer of the entry does not take: a buffer of its size. -/
  payload : ∀ size, v.bufferSize? = some size →
    (∃ e, s.find (some key) = some e ∧ e.Fits size) ∨ size = 0 ∨ memory.grants .payload size = true

theorem insertAt_isOk_iff (hs : s.Lists l) (pos : Nat) :
    (s.insertAt memory pos key v).1.isOk = true ↔
      memory.grants .index ((s.size + 1) * Handle.bytes) = true ∧
        (s.entries.acquire memory).isOk = true ∧ (Entry.blank.fill memory key v).isOk = true := by
  unfold insertAt
  split
  · next hindex =>
    rw [and_iff_right hindex]
    cases hacq : s.entries.acquire memory with
    | error err => simp [Except.isOk, Except.toBool]
    | ok p =>
      obtain ⟨h, entries⟩ := p
      obtain ⟨w, hidle, hadds⟩ := Pool.adds_of_acquire hs.entries hacq
      obtain rfl := Entry.eq_blank_of_isIdle hidle
      have hgot : (entries.get? h).getD .blank = .blank := by
        rw [hadds.get?, if_pos rfl]
        rfl
      dsimp only
      rw [hgot]
      cases Entry.blank.fill memory key v with
      | ok e => simp [Except.isOk, Except.toBool]
      | error err => simp [Except.isOk, Except.toBool]
  · next hindex => exact iff_of_false Bool.false_ne_true fun h => hindex h.1

theorem update_of_get? {h : Handle} {e : Entry} (hget : s.entries.get? h = some e) :
    (s.update memory h v).1.isOk = (e.install memory v).isOk ∧
      ((s.update memory h v).1.isOk = false → (s.update memory h v).2 = s) := by
  unfold update
  rw [hget]
  dsimp only
  cases e.install memory v with
  | ok e' => exact ⟨rfl, nofun⟩
  | error err => exact ⟨rfl, fun _ => rfl⟩

/-- **A write succeeds exactly if nothing is refused.** -/
theorem set_isOk_iff (hs : s.Lists l) (hv : v ≠ .void) :
    (s.set memory (some key) v).1.isOk = true ↔ s.Granted memory key v := by
  cases hkey : s.contains key with
  | true =>
    obtain ⟨h, e, hfind, hget, hset⟩ := set_of_contains hs memory hv hkey
    rw [hset, (update_of_get? hget).1, Entry.install_isOk_iff]
    constructor
    · intro hpayload
      refine ⟨?_, ?_, ?_, fun size hsize => ?_⟩
      · rw [hkey]; nofun
      · rw [hkey]; nofun
      · rw [hkey]; nofun
      · exact (hpayload size hsize).imp_left fun hfits => ⟨e, hfind, hfits⟩
    · intro hgranted size hsize
      refine (hgranted.payload size hsize).imp_left ?_
      rintro ⟨e', he', hfits⟩
      rw [hfind] at he'
      cases he'
      exact hfits
  | false =>
    have hnone : s.find (some key) = none := if_neg (by simp [hkey])
    rw [set_of_not_contains memory hv hkey, insertAt_isOk_iff hs, Pool.acquire_isOk_iff, Entry.fill_isOk_iff]
    constructor
    · rintro ⟨hindex, hrecord, hname, hpayload⟩
      exact ⟨fun _ => hindex, fun _ => hrecord, fun _ => hname, fun size hsize => Or.inr (hpayload size hsize)⟩
    · intro hgranted
      refine ⟨hgranted.index hkey, hgranted.record hkey, hgranted.name hkey, fun size hsize => ?_⟩
      refine (hgranted.payload size hsize).resolve_left ?_
      rintro ⟨e, he, -⟩
      rw [hnone] at he
      cases he

/-! ## How a write fails -/

theorem error_of_update {h : Handle} {err : StoreError} (he : (s.update memory h v).1 = .error err) :
    err = .outOfMemory := by
  unfold update at he
  split at he
  · cases he
  · split at he
    · cases he
    · next hinstall =>
      cases he
      exact Entry.error_of_install hinstall

theorem error_of_insertAt {pos : Nat} {err : StoreError}
    (he : (s.insertAt memory pos key v).1 = .error err) : err = .outOfMemory := by
  unfold insertAt at he
  split at he
  · split at he
    · next e _ =>
      cases he
      cases e
      rfl
    · split at he
      · cases he
      · next hfill =>
        cases he
        exact Entry.error_of_fill hfill
  · cases he
    rfl

/-- A write fails for want of a key, or of memory. -/
theorem error_of_set {key : Option String} {err : StoreError} (he : (s.set memory key v).1 = .error err) :
    v ≠ .void ∧ (key = none ∧ err = .missingKey ∨ key ≠ none ∧ err = .outOfMemory) := by
  unfold set at he
  split at he
  · cases he
  · next hv =>
    cases he
    exact ⟨hv, Or.inl ⟨rfl, rfl⟩⟩
  · cases he
  · next hv =>
    refine ⟨hv, Or.inr ⟨nofun, ?_⟩⟩
    split at he
    · split at he
      · exact error_of_update he
      · cases he
    · exact error_of_insertAt he

/-- The ways in which writing a value under a key fails, each with the store that it leaves. -/
inductive Failed (s : Store) (memory : Memory) (key : String) : Store → Prop where
  /-- A buffer is refused for the entry that is there. -/
  | update (present : s.contains key = true) : Failed s memory key s
  /-- The place in the index or the record is refused for a new entry. -/
  | early (absent : s.contains key = false)
      (refused : memory.grants .index ((s.size + 1) * Handle.bytes) = false ∨
        (s.entries.acquire memory).isOk = false) : Failed s memory key s
  /-- The record for a new entry cannot be filled and goes back. -/
  | late {h : Handle} {q : Pool Entry} (absent : s.contains key = false)
      (acquired : s.entries.acquire memory = .ok (h, q)) :
      Failed s memory key { s with entries := q.discard h }

/-- **A write that fails has taken no more than a record, and gives it back.** -/
theorem failed_of_set (hs : s.Lists l) (hv : v ≠ .void)
    (hfail : (s.set memory (some key) v).1.isOk = false) :
    s.Failed memory key (s.set memory (some key) v).2 := by
  cases hkey : s.contains key with
  | true =>
    obtain ⟨h, e, -, hget, hset⟩ := set_of_contains hs memory hv hkey
    rw [hset] at hfail ⊢
    rw [(update_of_get? hget).2 hfail]
    exact .update hkey
  | false =>
    rw [set_of_not_contains memory hv hkey] at hfail ⊢
    unfold insertAt at hfail ⊢
    split
    · cases hacq : s.entries.acquire memory with
      | error err => exact .early hkey (Or.inr (by rw [hacq]; rfl))
      | ok p =>
        obtain ⟨h, q⟩ := p
        simp only [hacq] at hfail
        dsimp only
        cases hfill : ((q.get? h).getD .blank).fill memory key v with
        | error err => exact .late hkey hacq
        | ok e => simp_all [Except.isOk, Except.toBool]
    · next hindex => exact .early hkey (Or.inl (eq_false_of_ne_true hindex))

/-! ## What a failed write leaves behind -/

/-- Whatever is read from the stores, the answers are the same. -/
structure ReadsLike (s s' : Store) : Prop where
  find : ∀ key, s'.find key = s.find key
  next : ∀ key, s'.next key = s.next key
  get : ∀ key, s'.get key = s.get key
  toList : s'.toList = s.toList
  walk : s'.walk = s.walk
  size : s'.size = s.size

theorem Lists.readsLike {s' : Store} (hs : s.Lists l) (hs' : s'.Lists l) : s.ReadsLike s' := by
  have hfirst : s'.entryAt? 0 = s.entryAt? 0 := by rw [hs'.entryAt?_eq, hs.entryAt?_eq]
  have hfind : ∀ key, s'.find key = s.find key := by
    rintro (_ | key)
    · exact hfirst
    · obtain ⟨before, here, after, hc⟩ := exists_cut key hs.ascending
      rw [hs'.find_of_cut hc, hs.find_of_cut hc]
  refine ⟨hfind, fun prev => ?_, fun key => ?_, ?_, ?_, ?_⟩
  · rw [hs'.next_eq_find?, hs.next_eq_find?]
  · rw [get, get, hfind]
  · rw [hs'.toList_eq, hs.toList_eq]
  · rw [hs'.walk_eq, hs.walk_eq]
  · rw [hs'.size_eq, hs.size_eq]

/-- A failed write leaves no trace. -/
structure Undone (s : Store) (memory : Memory) (key : Option String) (s' : Store) : Prop where
  reads : s.ReadsLike s'
  /-- An entry that is there keeps its value and its buffer, and nothing else in the store changes. -/
  kept : ∀ k e, key = some k → s.find (some k) = some e → s'.find (some k) = some e ∧ s' = s
  /-- All records are live or spare, and no live one is touched. -/
  owned : s'.Owned
  index : s'.index = s.index
  live : ∀ h, s'.entries.get? h = s.entries.get? h
  /-- The spare ones are those of before, the one that was taken for the call now being the last; … -/
  spare : s.entries.Respared s'.entries
  /-- … nothing is left in it of the key and the value. -/
  returned : ∀ k h q, key = some k → s.contains k = false →
    memory.grants .index ((s.size + 1) * Handle.bytes) = true → s.entries.acquire memory = .ok (h, q) →
      s'.entries.spare = q.spare ++ [h.index] ∧
        ∃ slot, s'.entries.slots[h.index.toNat]? = some slot ∧ slot.active = false ∧ slot.value = .blank

/-- Nothing at all has happened. -/
theorem Lists.undone_self {key : Option String} (hs : s.Lists l)
    (hnone : ∀ k, key = some k → s.contains k = false →
      memory.grants .index ((s.size + 1) * Handle.bytes) = true → (s.entries.acquire memory).isOk = false) :
    s.Undone memory key s where
  reads := hs.readsLike hs
  kept _ _ _ hfind := ⟨hfind, rfl⟩
  owned := hs.owned
  index := rfl
  live _ := rfl
  spare := .refl _
  returned k h q hkey habsent hindex hacq := by
    have hrefused := hnone k hkey habsent hindex
    rw [hacq] at hrefused
    cases hrefused

/-- **A write that fails leaves no trace.** -/
theorem Lists.undone {s' : Store} (hs : s.Lists l) (hf : s.Failed memory key s') :
    s.Undone memory (some key) s' := by
  cases hf with
  | update present =>
    refine hs.undone_self ?_
    rintro k ⟨⟩ habsent
    rw [present] at habsent
    cases habsent
  | early absent refused =>
    refine hs.undone_self ?_
    rintro k ⟨⟩ - hindex
    refine refused.resolve_left ?_
    rw [hindex]
    nofun
  | @late h q absent acquired =>
    obtain ⟨w, -, hadds⟩ := Pool.adds_of_acquire hs.entries acquired
    have hlists := hs.discard hadds
    have hcontains : q.contains h = true := Pool.contains_eq_true.mpr ⟨w, by rw [hadds.get?, if_pos rfl]⟩
    refine ⟨hs.readsLike hlists, ?_, hlists.owned, rfl, fun k => ?_, Pool.respared_of_discard acquired hcontains,
      ?_⟩
    · rintro k e ⟨⟩ hfind
      rw [find, if_neg (by simp [absent])] at hfind
      cases hfind
    · show (q.discard h).get? k = s.entries.get? k
      rw [(Pool.get?_discard hadds.wellFormed h).2, hadds.get?]
      split
      · next hk => rw [hk, hadds.absent]
      · rfl
    · rintro k h' q' ⟨⟩ - - hacq
      rw [acquired] at hacq
      cases hacq
      obtain ⟨slot, w', hslot, hactive, hvalue⟩ := Pool.slots_discard hcontains
      exact ⟨Pool.spare_discard hcontains, slot, hslot, hactive, hvalue⟩

/-! ## The bound on the records -/

/-- The store with another bound on the number of its records. -/
def limited (s : Store) (limit : Option Nat) : Store := { s with entries := s.entries.setLimit limit }

theorem Lists.limited (hs : s.Lists l) (limit : Option Nat) : (s.limited limit).Lists l :=
  hs.congr (Pool.writes_of_setLimit hs.entries limit).wellFormed fun _ => rfl

theorem contains_limited (s : Store) (limit : Option Nat) (key : String) :
    (s.limited limit).contains key = s.contains key := rfl

theorem update_limited (memory : Memory) (s : Store) (limit : Option Nat) (h : Handle) (v : Value) :
    (s.limited limit).update memory h v = ((s.update memory h v).1, (s.update memory h v).2.limited limit) := by
  have hget : (s.limited limit).entries.get? h = s.entries.get? h := rfl
  unfold update
  rw [hget]
  cases s.entries.get? h with
  | none => rfl
  | some e =>
    dsimp only
    cases e.install memory v with
    | error err => rfl
    | ok e' =>
      show (Except.ok (), Store.mk ((s.entries.setLimit limit).modify h _) s.index) = _
      rw [Pool.modify_setLimit]
      rfl

theorem remove_limited (s : Store) (limit : Option Nat) (key : String) :
    (s.limited limit).remove key = ((s.remove key).1, (s.remove key).2.limited limit) := by
  have hindex : (s.limited limit).index[(s.limited limit).rank key]? = s.index[s.rank key]? := rfl
  unfold remove
  rw [contains_limited]
  split
  · dsimp only
    rw [hindex]
    cases s.index[s.rank key]? with
    | none => rfl
    | some h =>
      show (true, Store.mk ((s.entries.setLimit limit).discard h) _) = _
      rw [Pool.discard_setLimit]
      rfl
  · rfl

/-- **A write under a key that is there does not depend on the bound on the records.** -/
theorem set_limited (hkey : s.contains key = true) (limit : Option Nat) :
    (s.limited limit).set memory (some key) v =
      ((s.set memory (some key) v).1, (s.set memory (some key) v).2.limited limit) := by
  by_cases hv : v = .void
  · subst hv
    show (Except.ok (), ((s.limited limit).remove key).2) = _
    rw [remove_limited]
    rfl
  · have hindex : (s.limited limit).index[(s.limited limit).rank key]? = s.index[s.rank key]? := rfl
    rw [set_eq_of_contains memory hv hkey, set_eq_of_contains (s := s.limited limit) memory hv hkey, hindex]
    cases s.index[s.rank key]? with
    | none => rfl
    | some h => exact update_limited memory s limit h v

/-- It takes no record, and gives none back. -/
theorem records_of_update (hv : v ≠ .void) (hkey : s.contains key = true) :
    (s.set memory (some key) v).2.entries.spare = s.entries.spare ∧
      (s.set memory (some key) v).2.entries.capacity = s.entries.capacity := by
  rw [set_eq_of_contains memory hv hkey]
  cases s.index[s.rank key]? with
  | none => exact ⟨rfl, rfl⟩
  | some h =>
    refine ⟨?_, capacity_update memory s h v⟩
    dsimp only
    unfold update
    split
    · rfl
    · split
      · exact Pool.spare_modify _ _ _
      · rfl

/-! ## Stores that can come about -/

/-- A store after any calls, with the number of its records bounded or not. -/
inductive Reachable : Store → Prop where
  | initial {s : Store} (h : s.Initial) : Reachable s
  | call {s : Store} (h : Reachable s) (c : StoreCall) : Reachable (s.call c).2
  | limited {s : Store} (h : Reachable s) (limit : Option Nat) : Reachable (s.limited limit)

theorem Reachable.exists_models {s : Store} (h : s.Reachable) : ∃ m, s.Models m := by
  induction h with
  | initial h => exact ⟨_, models_of_initial h⟩
  | call _ c ih =>
    obtain ⟨m, hm⟩ := ih
    exact ⟨_, models_call hm c⟩
  | limited _ limit ih =>
    obtain ⟨m, l, hs, hagrees⟩ := ih
    exact ⟨m, l, hs.limited limit, hagrees⟩

theorem Reachable.exists_lists {s : Store} (h : s.Reachable) : ∃ l, s.Lists l := by
  obtain ⟨m, l, hs, -⟩ := h.exists_models
  exact ⟨l, hs⟩

/-- How a write may fail, and what it leaves behind if it does. -/
structure FailsCleanly (s : Store) (memory : Memory) (key : Option String) (v : Value) : Prop where
  /-- It fails exactly if it comes without a key, or if something is refused that it asks for. -/
  fails : ∀ err, (s.set memory key v).1 = .error err ↔
    v ≠ .void ∧
      (key = none ∧ err = .missingKey ∨
        ∃ k, key = some k ∧ ¬s.Granted memory k v ∧ err = .outOfMemory)
  undone : ∀ err, (s.set memory key v).1 = .error err → s.Undone memory key (s.set memory key v).2
  /-- An entry that is there is written in its own record, … -/
  inPlace : ∀ k, key = some k → s.contains k = true → v ≠ .void →
    (s.set memory key v).2.entries.spare = s.entries.spare ∧
      (s.set memory key v).2.entries.capacity = s.entries.capacity
  /-- … with the same outcome whatever the bound on the records is. -/
  unbounded : ∀ k limit, key = some k → s.contains k = true →
    (s.limited limit).set memory key v = ((s.set memory key v).1, (s.set memory key v).2.limited limit)

theorem isOk_of_error {β : Type} {r : Except StoreError β} {err : StoreError} (h : r = .error err) :
    r.isOk = false := by
  rw [h]
  rfl

theorem set_error_iff (hs : s.Lists l) {key : Option String} {err : StoreError} :
    (s.set memory key v).1 = .error err ↔
      v ≠ .void ∧
        (key = none ∧ err = .missingKey ∨
          ∃ k, key = some k ∧ ¬s.Granted memory k v ∧ err = .outOfMemory) := by
  constructor
  · intro he
    obtain ⟨hv, hreason⟩ := error_of_set he
    refine ⟨hv, hreason.imp_right ?_⟩
    rintro ⟨hkey, hmemory⟩
    obtain ⟨k, rfl⟩ := Option.ne_none_iff_exists'.mp hkey
    refine ⟨k, rfl, fun hgranted => ?_, hmemory⟩
    have hok := (set_isOk_iff hs hv).mpr hgranted
    rw [isOk_of_error he] at hok
    cases hok
  · rintro ⟨hv, ⟨rfl, rfl⟩ | ⟨k, rfl, hrefused, rfl⟩⟩
    · cases v <;> first | exact absurd rfl hv | rfl
    · rw [← set_isOk_iff hs hv] at hrefused
      cases he : (s.set memory (some k) v).1 with
      | ok u => exact absurd (by rw [he]; rfl) hrefused
      | error err =>
        rcases (error_of_set he).2 with ⟨hnone, -⟩ | ⟨-, rfl⟩
        · cases hnone
        · rfl

/-- **A write that fails leaves no trace, and no bound on the records makes one fail under a key that is there.** -/
theorem failed_set_leaves_no_trace {s : Store} (h : s.Reachable) (memory : Memory) (key : Option String)
    (v : Value) : s.FailsCleanly memory key v := by
  obtain ⟨l, hs⟩ := h.exists_lists
  refine ⟨fun err => set_error_iff hs, fun err he => ?_, ?_, ?_⟩
  · obtain ⟨hv, -⟩ := error_of_set he
    cases key with
    | none =>
      have hsame : (s.set memory none v).2 = s := by
        cases v <;> first | exact absurd rfl hv | rfl
      rw [hsame]
      exact hs.undone_self nofun
    | some k => exact hs.undone (failed_of_set hs hv (isOk_of_error he))
  · rintro k rfl hkey hv
    exact records_of_update hv hkey
  · rintro k limit rfl hkey
    exact set_limited hkey limit

/-- A store at its bound, with one entry and a spare record. -/
def bounded : Store :=
  (Store.empty.after
    [.set .unbounded (some "a") (.string "kept"), .set .unbounded (some "b") (.int 1), .remove "b"]).limited
      (some 1)

/-- A record is there for the new key, but no buffer for its value. -/
theorem failed_set_leaves_no_trace_bounded :
    bounded.Reachable ∧
      bounded.FailsCleanly (.ofBlocks 100) (some "c") (.blob (List.replicate 101 7)) ∧
      (bounded.set (.ofBlocks 100) (some "c") (.blob (List.replicate 101 7))).1 = .error .outOfMemory ∧
      (bounded.set (.ofBlocks 100) (some "c") (.blob (List.replicate 101 7))).2.spareCount = 1 ∧
      (bounded.set (.ofBlocks 100) (some "a") (.long 9)).1 = .ok () := by
  have hreachable : bounded.Reachable :=
    ((((Reachable.initial .empty).call _).call _).call (.remove "b")).limited (some 1)
  exact ⟨hreachable, failed_set_leaves_no_trace hreachable _ _ _, by decide +kernel, by decide +kernel,
    by decide +kernel⟩

end Store

end EventLoop
