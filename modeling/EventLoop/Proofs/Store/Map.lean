import EventLoop.Proofs.Store.Write
import Mathlib.Data.Finmap

/-!
# A store is a finite map

A store is written by calls, some of which may fail. A finite map that is told the calls that succeed, and
nothing of the order of keys, records or handles, says all that can be read from the store afterwards.

* `Agrees` — the entries of a list are the bindings of a map.
* `models_call` — one call keeps the store and the map in agreement.
* `refines_bindings` — whatever the calls, the store reads as the map says.
-/

namespace EventLoop

/-- A finite map from keys to values. -/
abbrev Bindings := Finmap fun _ : String => Value

/-! ## Calls -/

/-- A call that writes to a store, with the reservations granted to it. -/
inductive StoreCall where
  | set (memory : Memory) (key : Option String) (value : Value)
  | remove (key : String)
  | clear

/-- What a call that succeeds does to a finite map. -/
def StoreCall.replay : StoreCall → Bindings → Bindings
  | set _ none _, _ => ∅
  | set _ (some key) .void, m => m.erase key
  | set _ (some key) v, m => m.insert key v
  | remove key, m => m.erase key
  | clear, _ => ∅

namespace Store

/-- A call: whether it succeeds, and the store afterwards. -/
def call (s : Store) : StoreCall → Except StoreError Unit × Store
  | .set memory key v => s.set memory key v
  | .remove key => (.ok (), (s.remove key).2)
  | .clear => (.ok (), s.clear)

/-- The store after some calls. -/
def after (s : Store) (cs : List StoreCall) : Store := cs.foldl (fun s c => (s.call c).2) s

/-- The store after some calls, and the map that is told those that succeed. -/
def calls (s : Store) (m : Bindings) : List StoreCall → Store × Bindings
  | [] => (s, m)
  | c :: rest => calls (s.call c).2 (if (s.call c).1.isOk then c.replay m else m) rest

theorem calls_fst (s : Store) (m : Bindings) (cs : List StoreCall) : (s.calls m cs).1 = s.after cs := by
  induction cs generalizing s m with
  | nil => rfl
  | cons c rest ih => exact ih _ _

end Store

/-! ## Entries and bindings -/

/-- The entries are the bindings of the map. -/
def Agrees (l : List Entry) (m : Bindings) : Prop :=
  ∀ key v, m.lookup key = some v ↔ ∃ e ∈ l, e.key = key ∧ e.value = v

theorem agrees_nil : Agrees [] ∅ := by
  intro key v
  simp

namespace Agrees

variable {l before after : List Entry} {here : Option Entry} {key : String} {m : Bindings}

theorem mem_iff (ha : Agrees l m) : key ∈ m ↔ ∃ e ∈ l, e.key = key := by
  rw [Finmap.mem_iff]
  constructor
  · rintro ⟨v, hv⟩
    obtain ⟨e, he, hkey, -⟩ := (ha key v).mp hv
    exact ⟨e, he, hkey⟩
  · rintro ⟨e, he, hkey⟩
    exact ⟨e.value, (ha key e.value).mpr ⟨e, he, hkey, rfl⟩⟩

theorem lookup_of_mem (ha : Agrees l m) {e : Entry} (he : e ∈ l) : m.lookup e.key = some e.value :=
  (ha e.key e.value).mpr ⟨e, he, rfl, rfl⟩

theorem lookup_of_cut (ha : Agrees l m) (hc : Cut key l before here after) :
    m.lookup key = here.map Entry.value := by
  ext v
  rw [ha key v, Option.map_eq_some_iff]
  constructor
  · rintro ⟨e, he, hkey, hv⟩
    exact ⟨e, (hc.mem_iff_of_key hkey).mp he, hv⟩
  · rintro ⟨e, he, hv⟩
    have hkey := hc.here e he
    exact ⟨e, (hc.mem_iff_of_key hkey).mpr he, hkey, hv⟩

theorem erase (ha : Agrees l m) (hc : Cut key l before here after) :
    Agrees (before ++ after) (m.erase key) := by
  intro k v
  by_cases hk : k = key
  · subst hk
    rw [Finmap.lookup_erase]
    refine ⟨nofun, ?_⟩
    rintro ⟨e, he, hkey, -⟩
    rcases List.mem_append.mp he with hb | hafter
    · exact absurd hkey (ne_of_keyBefore (hc.before e hb))
    · exact absurd hkey.symm (ne_of_keyBefore (hc.after e hafter))
  · rw [Finmap.lookup_erase_ne hk, ha k v]
    refine exists_congr fun e => and_congr_left ?_
    rintro ⟨rfl, -⟩
    exact hc.mem_iff_of_ne hk

theorem insert (ha : Agrees l m) (hc : Cut key l before here after) {e : Entry} (hkey : e.key = key) :
    Agrees (before ++ ((some e).toList ++ after)) (m.insert key e.value) := by
  have hc' := @Cut.put _ _ _ _ _ hc (some e) (by rintro _ ⟨⟩; exact hkey)
  intro k v
  by_cases hk : k = key
  · subst hk
    rw [Finmap.lookup_insert]
    constructor
    · intro hv
      exact ⟨e, (hc'.mem_iff_of_key hkey).mpr rfl, hkey, Option.some.inj hv⟩
    · rintro ⟨x, hx, hxk, hv⟩
      cases (hc'.mem_iff_of_key hxk).mp hx
      rw [hv]
  · rw [Finmap.lookup_insert_of_ne _ hk, ha k v]
    refine exists_congr fun x => and_congr_left ?_
    rintro ⟨rfl, -⟩
    rw [hc.mem_iff_of_ne hk, hc'.mem_iff_of_ne hk]

theorem card_keys (ha : Agrees l m) (hl : Ascending l) : m.keys.card = l.length := by
  have hnodup : (l.map Entry.key).Nodup :=
    List.pairwise_map.mpr (hl.imp fun h => ne_of_keyBefore h)
  have hkeys : m.keys = (l.map Entry.key).toFinset := by
    ext key
    rw [Finmap.mem_keys, ha.mem_iff, List.mem_toFinset, List.mem_map]
  rw [hkeys, List.toFinset_card_of_nodup hnodup, List.length_map]

end Agrees

/-! ## One call -/

namespace Store

/-- The store holds the bindings of the map. -/
def Models (s : Store) (m : Bindings) : Prop := ∃ l, s.Lists l ∧ Agrees l m

theorem Models.remove {s : Store} {m : Bindings} (h : s.Models m) (key : String) :
    (s.remove key).2.Models (m.erase key) := by
  obtain ⟨l, hs, ha⟩ := h
  obtain ⟨before, here, after, hc⟩ := exists_cut key hs.ascending
  exact ⟨before ++ after, (remove_of_cut hs hc).2, ha.erase hc⟩

theorem Models.clear {s : Store} {m : Bindings} (h : s.Models m) : s.clear.Models ∅ := by
  obtain ⟨l, hs, -⟩ := h
  exact ⟨[], lists_clear hs, agrees_nil⟩

theorem Models.set {s : Store} {m : Bindings} (h : s.Models m) (memory : Memory) (key : String) {v : Value}
    (hv : v ≠ .void) :
    (s.set memory (some key) v).2.Models
      (if (s.set memory (some key) v).1.isOk then m.insert key v else m) := by
  obtain ⟨l, hs, ha⟩ := h
  obtain ⟨before, here, after, hc⟩ := exists_cut key hs.ascending
  rcases set_of_cut hs hc memory hv with ⟨e, hok, hnew, hlists⟩ | ⟨herr, hlists⟩
  · have hinsert := ha.insert hc hnew.key_eq
    rw [hnew.value_eq] at hinsert
    rw [hok]
    exact ⟨_, hlists, hinsert⟩
  · rw [herr]
    exact ⟨l, hlists, ha⟩

/-- **One call keeps the store and the map in agreement.** -/
theorem models_call {s : Store} {m : Bindings} (h : s.Models m) (c : StoreCall) :
    (s.call c).2.Models (if (s.call c).1.isOk then c.replay m else m) := by
  cases c with
  | remove key => exact h.remove key
  | clear => exact h.clear
  | set memory key v =>
    cases key with
    | none =>
      cases v with
      | void => exact h.clear
      | _ => exact h
    | some key =>
      by_cases hv : v = .void
      · subst hv
        exact h.remove key
      · have hreplay : (StoreCall.set memory (some key) v).replay m = m.insert key v := by
          cases v <;> first | rfl | exact absurd rfl hv
        rw [hreplay]
        exact h.set memory key hv

/-- The induction is on the calls. -/
theorem models_calls (cs : List StoreCall) {s : Store} {m : Bindings} (h : s.Models m) :
    (s.calls m cs).1.Models (s.calls m cs).2 := by
  induction cs generalizing s m with
  | nil => exact h
  | cons c rest ih => exact ih (models_call h c)

theorem models_of_initial {s : Store} (h : s.Initial) : s.Models ∅ := ⟨[], lists_of_initial h, agrees_nil⟩

theorem exists_models_after {s : Store} {m : Bindings} (h : s.Models m) (cs : List StoreCall) :
    ∃ m', (s.after cs).Models m' :=
  ⟨_, calls_fst s m cs ▸ models_calls cs h⟩

end Store

/-! ## What can be read -/

/-- An answer is the payload of a value if that is of a kind, and the complaint about its kind otherwise. -/
structure Value.Answers {β : Type} (v : Value) (answer : Except StoreError β) (kind : Kind)
    (make : β → Value) : Prop where
  payload : ∀ b, answer = .ok b ↔ v = make b
  mismatch : v.kind ≠ kind → answer = .error (.kindMismatch kind v.kind)

/-- What the typed readings of an entry with a value answer. -/
structure Entry.Reads (e : Entry) (v : Value) : Prop where
  int : v.Answers e.value.asInt .int .int
  uint : v.Answers e.value.asUInt .uint .uint
  long : v.Answers e.value.asLong .long .long
  ulong : v.Answers e.value.asULong .ulong .ulong
  double : v.Answers e.value.asDouble .double .double
  pointer : v.Answers e.value.asPointer .pointer .pointer
  blob : v.Answers e.value.asBlob .blob .blob
  string : v.Answers e.value.asString .string .string

theorem Entry.reads_value (e : Entry) : e.Reads e.value := by
  obtain ⟨key, v, room⟩ := e
  constructor <;> constructor <;> cases v <;>
    first
    | exact fun h => absurd rfl h
    | exact fun _ => rfl
    | (intro b; simp [Value.asInt, Value.asUInt, Value.asLong, Value.asULong, Value.asDouble,
        Value.asPointer, Value.asBlob, Value.asString, Value.mismatch])

/-- The binding with the least key that passes a test; none if no key does. -/
structure Bindings.IsLeast (m : Bindings) (test : String → Prop) (found : Option Entry) : Prop where
  none_iff : found = none ↔ ∀ key ∈ m, ¬test key
  bound : ∀ e, found = some e → m.lookup e.key = some e.value ∧ test e.key
  least : ∀ e, found = some e → ∀ key ∈ m, test key → key ≠ e.key → keyBefore e.key key = true

theorem Bindings.isLeast_head? {l part : List Entry} {m : Bindings} {test : String → Prop}
    (ha : Agrees l m) (hpart : Ascending part) (hmem : ∀ e, e ∈ part ↔ e ∈ l ∧ test e.key) :
    m.IsLeast test part.head? := by
  have hin : ∀ key ∈ m, test key → ∃ e ∈ part, e.key = key := by
    intro key hkey htest
    obtain ⟨e, he, rfl⟩ := ha.mem_iff.mp hkey
    exact ⟨e, (hmem e).mpr ⟨he, htest⟩, rfl⟩
  cases part with
  | nil =>
    refine ⟨⟨fun _ key hkey htest => ?_, fun _ => rfl⟩, nofun, nofun⟩
    obtain ⟨e, he, -⟩ := hin key hkey htest
    cases he
  | cons e rest =>
    obtain ⟨he, htest⟩ := (hmem e).mp List.mem_cons_self
    refine ⟨⟨nofun, fun hall => ?_⟩, ?_, ?_⟩
    · exact absurd htest (hall e.key (ha.mem_iff.mpr ⟨e, he, rfl⟩))
    · rintro _ ⟨⟩
      exact ⟨ha.lookup_of_mem he, htest⟩
    · rintro _ ⟨⟩ key hkey hkt hne
      obtain ⟨x, hx, rfl⟩ := hin key hkey hkt
      rcases List.mem_cons.mp hx with rfl | hx
      · exact absurd rfl hne
      · exact (List.pairwise_cons.mp hpart).1 x hx

/-- The entry after the cut is the one with the least key after that of the cut. -/
theorem Bindings.isLeast_of_cut {l before after : List Entry} {here : Option Entry} {key : String}
    {m : Bindings} (ha : Agrees l m) (hl : Ascending l) (hc : Cut key l before here after) :
    m.IsLeast (fun other => keyBefore key other = true) after.head? := by
  have hafter : Ascending after := by
    rw [hc.eq] at hl
    exact (List.pairwise_append.mp (List.pairwise_append.mp hl).2.1).2.1
  refine Bindings.isLeast_head? ha hafter fun e => ⟨fun he => ⟨?_, hc.after e he⟩, ?_⟩
  · rw [hc.eq]
    exact List.mem_append_right _ (List.mem_append_right _ he)
  · rintro ⟨he, hlt⟩
    rcases List.mem_append.mp ((hc.mem_iff_of_ne (ne_of_keyBefore hlt).symm).mp he) with hb | hin
    · rw [keyBefore_asymm (hc.before e hb)] at hlt
      cases hlt
    · exact hin

namespace Store

/-- All that can be read from a store is what a map says. -/
structure Refines (s : Store) (m : Bindings) : Prop where
  /-- A lookup gives the key with its value, if it has one. -/
  find : ∀ key, (s.find (some key)).map (fun e => (e.key, e.value)) = (m.lookup key).map fun v => (key, v)
  /-- The typed readings of what is found answer by that value. -/
  reads : ∀ key e v, s.find (some key) = some e → m.lookup key = some v → e.Reads v
  /-- Without a key it is the least one that is found. -/
  first : m.IsLeast (fun _ => True) (s.find none)
  start : s.next none = s.find none
  /-- The successor of a key, whether or not that has a value, is the least one after it. -/
  next : ∀ key, m.IsLeast (fun other => keyBefore key other = true) (s.next (some key))
  /-- The entries are the bindings, in strictly increasing order of the keys. -/
  ascending : Ascending s.toList
  entries : ∀ key v, (∃ e ∈ s.toList, e.key = key ∧ e.value = v) ↔ m.lookup key = some v
  size : s.size = m.keys.card
  /-- Deleting says whether the key had a value. -/
  remove : ∀ key, (s.remove key).1 = true ↔ key ∈ m

theorem refines_of_models {s : Store} {m : Bindings} (h : s.Models m) : s.Refines m := by
  obtain ⟨l, hs, ha⟩ := h
  have hlist := hs.toList_eq
  have hhead : s.find none = l.head? := by
    rw [List.head?_eq_getElem?]
    exact hs.entryAt?_eq 0
  refine ⟨?_, ?_, ?_, rfl, ?_, ?_, ?_, ?_, ?_⟩
  · intro key
    obtain ⟨before, here, after, hc⟩ := exists_cut key hs.ascending
    rw [hs.find_of_cut hc, ha.lookup_of_cut hc, Option.map_map]
    refine Option.map_congr fun e he => ?_
    rw [hc.here e he]
    rfl
  · intro key e v hfind hv
    obtain ⟨before, here, after, hc⟩ := exists_cut key hs.ascending
    rw [hs.find_of_cut hc] at hfind
    rw [ha.lookup_of_cut hc, hfind] at hv
    cases hv
    exact e.reads_value
  · rw [hhead]
    exact Bindings.isLeast_head? ha hs.ascending fun e => by simp
  · intro key
    obtain ⟨before, here, after, hc⟩ := exists_cut key hs.ascending
    rw [hs.next_of_cut hc]
    exact Bindings.isLeast_of_cut ha hs.ascending hc
  · rw [hlist]
    exact hs.ascending
  · intro key v
    rw [hlist]
    exact (ha key v).symm
  · rw [hs.size_eq, ha.card_keys hs.ascending]
  · intro key
    obtain ⟨before, here, after, hc⟩ := exists_cut key hs.ascending
    rw [(remove_of_cut hs hc).1, ← Finmap.lookup_isSome, ha.lookup_of_cut hc, Option.isSome_map]

/-- **Whatever is called, the store reads as the map that is told the calls that succeed.** -/
theorem refines_bindings {s : Store} (h : s.Initial) (cs : List StoreCall) :
    (s.calls ∅ cs).1.Refines (s.calls ∅ cs).2 :=
  refines_of_models (models_calls cs (models_of_initial h))

/-- Two keys, one of which is written again, deleted and put back as a value of another kind. -/
def rewrites : List StoreCall :=
  [.set .unbounded (some "b") (.int 1), .set .unbounded (some "a") (.string "x"),
    .set .unbounded (some "b") .void, .set .unbounded none (.int 3), .set .unbounded (some "b") (.uint 2)]

theorem refines_bindings_of_rewrites :
    Store.empty.Initial ∧
      (Store.empty.calls ∅ rewrites).1.Refines (Store.empty.calls ∅ rewrites).2 ∧
      (Store.empty.calls ∅ rewrites).1.toList.map (fun e => (e.key, e.value)) =
        [("a", .string "x"), ("b", .uint 2)] :=
  ⟨.empty, refines_bindings .empty _, by decide +kernel⟩

end Store

end EventLoop
