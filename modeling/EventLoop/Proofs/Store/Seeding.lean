import EventLoop.Proofs.Store.Reading
import EventLoop.Settings.Seed

/-!
# A seed is laid over a store

A seed gives values to keys, each key at most once (`Settings.nodup_of_load`). Laid over a store, it puts the values
that have a place there under their keys, whatever these held before, and leaves every other key alone. A second time
it writes to each entry the value that it has, and this changes nothing at all.

* `Toml.Value.Becomes` — the value that a value of a seed becomes in a store.
* `laid_of_seed` — what becomes of every key (`Store.Laid`).
* `seed_of_laid` — the second time.
* `Laid.overlaid`, `seeding_overlays` — all of it, with the order and the number of the entries (`Store.Overlaid`).
-/

namespace EventLoop

/-! ## Values of a seed -/

namespace Toml.Value

/-- What a value of a seed becomes in a store. A date, an array or a table becomes nothing. -/
inductive Becomes : Toml.Value → EventLoop.Value → Prop where
  | integer (i : Int64) : Becomes (.integer i) (.long i)
  | float (x : Double) : Becomes (.float x) (.double x)
  | boolean (b : Bool) : Becomes (.boolean b) (.int (if b then 1 else 0))
  | string (text : String) : Becomes (.string text) (.string text)

/-- Is the value an integer, a float, a boolean or a string? -/
def isPlain : Toml.Value → Bool
  | integer _ | float _ | boolean _ | string _ => true
  | dateTime _ | array _ | table _ => false

theorem stored?_eq_some_iff {v : Toml.Value} {w : EventLoop.Value} : v.stored? = some w ↔ v.Becomes w := by
  constructor
  · intro h
    cases v <;> cases h <;> constructor
  · rintro (i | x | b | text) <;> rfl

theorem isPlain_eq (v : Toml.Value) : v.isPlain = v.stored?.isSome := by cases v <;> rfl

theorem isPlain_iff {v : Toml.Value} : v.isPlain = true ↔ ∃ w, v.Becomes w := by
  rw [isPlain_eq, Option.isSome_iff_exists]
  exact exists_congr fun w => stored?_eq_some_iff

theorem Becomes.ne_void {v : Toml.Value} {w : EventLoop.Value} (h : v.Becomes w) : w ≠ .void := by
  cases h <;> nofun

theorem Becomes.unique {v : Toml.Value} {w w' : EventLoop.Value} (h : v.Becomes w) (h' : v.Becomes w') :
    w' = w :=
  Option.some.inj ((stored?_eq_some_iff.mpr h').symm.trans (stored?_eq_some_iff.mpr h))

end Toml.Value

namespace Store

variable {s s' : Store} {l : List Entry} {sown : List (String × Toml.Value)} {memory : Memory} {count : Nat}

/-! ## What becomes of every key -/

/-- The seed gives the key a value that has a place in a store. -/
def Gives (sown : List (String × Toml.Value)) (key : String) (w : Value) : Prop :=
  ∃ v, (key, v) ∈ sown ∧ v.Becomes w

/-- How many values of a seed have a place in a store. -/
def plainCount (sown : List (String × Toml.Value)) : Nat := sown.countP fun e => e.2.isPlain

theorem plainCount_cons (key : String) (v : Toml.Value) :
    plainCount ((key, v) :: sown) = plainCount sown + if v.stored?.isSome then 1 else 0 := by
  rw [plainCount, List.countP_cons, Toml.Value.isPlain_eq]
  rfl

/-- The values of a seed are under their keys, and nothing else has changed. -/
structure Laid (s : Store) (sown : List (String × Toml.Value)) (s' : Store) : Prop where
  applied : ∀ key w, Gives sown key w → ∃ e, s'.find (some key) = some e ∧ e.value = w
  untouched : ∀ key, (∀ w, ¬Gives sown key w) → s'.find (some key) = s.find (some key)

theorem laid_nil (s : Store) : s.Laid [] s where
  applied _ _ := by
    rintro ⟨v, hv, -⟩
    cases hv
  untouched _ _ := rfl

/-- A value that has no place in a store is passed over. -/
theorem Laid.skip (h : s.Laid sown s') {key : String} {v : Toml.Value} (hv : v.stored? = none) :
    s.Laid ((key, v) :: sown) s' := by
  have hnone : ∀ w, ¬v.Becomes w := fun w hw => by
    rw [Toml.Value.stored?_eq_some_iff.mpr hw] at hv
    cases hv
  have hsame : ∀ k w, Gives ((key, v) :: sown) k w ↔ Gives sown k w := by
    refine fun k w => exists_congr fun x => and_congr_left fun hx => ?_
    rw [List.mem_cons, or_iff_right]
    rintro ⟨⟩
    exact hnone w hx
  refine ⟨fun k w hk => h.applied k w ((hsame k w).mp hk), fun k hk => h.untouched k fun w hw => ?_⟩
  exact hk w ((hsame k w).mpr hw)

/-- A value is put under its key, and the rest of the seed does not touch this key again. -/
theorem Laid.put {t : Store} (h : t.Laid sown s') {key : String} {v : Toml.Value} {w : Value} (hv : v.Becomes w)
    (hnew : key ∉ sown.map Prod.fst) {e : Entry} (he : e.Replaces (s.find (some key)) key w)
    (hfind : ∀ k, t.find (some k) = if k = key then some e else s.find (some k)) :
    s.Laid ((key, v) :: sown) s' := by
  have hnot : ∀ w', ¬Gives sown key w' := by
    rintro w' ⟨v', hmem, -⟩
    exact hnew (List.mem_map_of_mem hmem)
  refine ⟨?_, fun k hk => ?_⟩
  · rintro k w' ⟨v', hmem, hv'⟩
    rcases List.mem_cons.mp hmem with hhead | hmem
    · cases hhead
      cases hv.unique hv'
      refine ⟨e, ?_, he.value_eq⟩
      rw [h.untouched key hnot, hfind, if_pos rfl]
    · exact h.applied k w' ⟨v', hmem, hv'⟩
  · have hne : k ≠ key := by
      rintro rfl
      exact hk w ⟨v, List.mem_cons_self, hv⟩
    rw [h.untouched k fun w' hw' => hk w' (hw'.imp fun _ => And.imp_left (List.mem_cons_of_mem _)), hfind,
      if_neg hne]

/-! ## Along a seed -/

theorem seed_skip {key : String} {v : Toml.Value} (hv : v.stored? = none) :
    s.seed memory ((key, v) :: sown) = s.seed memory sown := by
  rw [Store.seed, hv]

theorem seed_put {key : String} {v : Toml.Value} {w : Value} (hv : v.stored? = some w)
    (hseed : s.seed memory ((key, v) :: sown) = (.ok count, s')) :
    ∃ t n, s.set memory (some key) w = (.ok (), t) ∧ t.seed memory sown = (.ok n, s') ∧ count = n + 1 := by
  rw [Store.seed, hv] at hseed
  dsimp only at hseed
  rcases hset : s.set memory (some key) w with ⟨err | u, t⟩
  · rw [hset] at hseed
    cases hseed
  · rw [hset] at hseed
    dsimp only at hseed
    rcases hrest : t.seed memory sown with ⟨err | n, t'⟩
    · rw [hrest] at hseed
      cases hseed
    · rw [hrest] at hseed
      cases hseed
      exact ⟨t, n, rfl, hrest, rfl⟩

theorem find_of_set_ok {t : Store} {key : String} {w : Value} (hs : s.Lists l) (hw : w ≠ .void)
    (hset : s.set memory (some key) w = (.ok (), t)) :
    ∃ e, e.Replaces (s.find (some key)) key w ∧
      ∀ k, t.find (some k) = if k = key then some e else s.find (some k) := by
  rcases find_set hs memory key hw with ⟨e, -, he, hfind⟩ | ⟨hfail, -⟩
  · rw [hset] at hfind
    exact ⟨e, he, hfind⟩
  · rw [hset] at hfail
    cases hfail

/-- **A seed that is taken whole is laid over the store**, and its values that have a place there are counted. The
induction is on the seed, along which the store stays one that can come about. -/
theorem laid_of_seed (h : s.Reachable) (hkeys : (sown.map Prod.fst).Nodup)
    (hseed : s.seed memory sown = (.ok count, s')) :
    s.Laid sown s' ∧ s'.Reachable ∧ count = plainCount sown := by
  induction sown generalizing s count with
  | nil =>
    cases hseed
    exact ⟨laid_nil _, h, rfl⟩
  | cons entry rest ih =>
    obtain ⟨key, v⟩ := entry
    obtain ⟨hnew, hkeys⟩ := List.nodup_cons.mp hkeys
    cases hv : v.stored? with
    | none =>
      rw [seed_skip hv] at hseed
      obtain ⟨hlaid, hreach, rfl⟩ := ih h hkeys hseed
      exact ⟨hlaid.skip hv, hreach, by rw [plainCount_cons, hv]; rfl⟩
    | some w =>
      have hbecomes := Toml.Value.stored?_eq_some_iff.mp hv
      obtain ⟨t, n, hset, hrest, rfl⟩ := seed_put hv hseed
      obtain ⟨l, hs⟩ := h.exists_lists
      obtain ⟨e, he, hfind⟩ := find_of_set_ok hs hbecomes.ne_void hset
      have hreach : t.Reachable := by
        have hcall := h.call (.set memory (some key) w)
        rw [call, hset] at hcall
        exact hcall
      obtain ⟨hlaid, hreach', rfl⟩ := ih hreach hkeys hrest
      exact ⟨hlaid.put hbecomes hnew he hfind, hreach', by rw [plainCount_cons, hv]; rfl⟩

/-- **A store over which a seed is laid already stays what it is.** The induction is on the seed. -/
theorem seed_of_laid (hs : s.Lists l) (hsettled : s.Settled) (memory : Memory)
    (happlied : ∀ key w, Gives sown key w → ∃ e, s.find (some key) = some e ∧ e.value = w) :
    s.seed memory sown = (.ok (plainCount sown), s) := by
  induction sown with
  | nil => rfl
  | cons entry rest ih =>
    obtain ⟨key, v⟩ := entry
    have hrest := ih fun k w hk => happlied k w (hk.imp fun _ => And.imp_left (List.mem_cons_of_mem _))
    cases hv : v.stored? with
    | none =>
      rw [seed_skip hv, hrest, plainCount_cons, hv]
      rfl
    | some w =>
      have hbecomes := Toml.Value.stored?_eq_some_iff.mp hv
      obtain ⟨e, hfind, rfl⟩ := happlied key w ⟨v, List.mem_cons_self, hbecomes⟩
      rw [Store.seed, hv]
      dsimp only
      rw [set_same hs hsettled memory hfind hbecomes.ne_void]
      dsimp only
      rw [hrest, plainCount_cons, hv]
      rfl

/-! ## Keys -/

/-- The keys of the entries. -/
def keys (s : Store) : Finset String := (s.toList.map Entry.key).toFinset

/-- The keys of the values that have a place in a store. -/
def keysOf (sown : List (String × Toml.Value)) : Finset String :=
  ((sown.filter fun e => e.2.isPlain).map Prod.fst).toFinset

theorem Lists.mem_keys (hs : s.Lists l) {key : String} : key ∈ s.keys ↔ ∃ e, s.find (some key) = some e := by
  rw [keys, hs.toList_eq, List.mem_toFinset, List.mem_map]
  exact exists_congr fun e => hs.find_eq_some_iff.symm

theorem Lists.size_eq_card (hs : s.Lists l) : s.size = s.keys.card := by
  have hnodup : (l.map Entry.key).Nodup := List.pairwise_map.mpr (hs.ascending.imp fun h => ne_of_keyBefore h)
  rw [keys, hs.toList_eq, List.toFinset_card_of_nodup hnodup, List.length_map, hs.size_eq]

theorem mem_keysOf {key : String} : key ∈ keysOf sown ↔ ∃ w, Gives sown key w := by
  unfold keysOf Gives
  rw [List.mem_toFinset, List.mem_map]
  constructor
  · rintro ⟨⟨k, v⟩, hmem, rfl⟩
    obtain ⟨hmem, hplain⟩ := List.mem_filter.mp hmem
    obtain ⟨w, hw⟩ := Toml.Value.isPlain_iff.mp hplain
    exact ⟨w, v, hmem, hw⟩
  · rintro ⟨w, v, hmem, hw⟩
    exact ⟨(key, v), List.mem_filter.mpr ⟨hmem, Toml.Value.isPlain_iff.mpr ⟨w, hw⟩⟩, rfl⟩

/-- What a seed puts into a store comes to the keys that are there. -/
theorem Laid.keys_eq {l' : List Entry} (h : s.Laid sown s') (hs : s.Lists l) (hs' : s'.Lists l') :
    s'.keys = s.keys ∪ keysOf sown := by
  ext key
  rw [Finset.mem_union, hs'.mem_keys, hs.mem_keys, mem_keysOf]
  by_cases hgives : ∃ w, Gives sown key w
  · obtain ⟨w, hw⟩ := hgives
    obtain ⟨e, he, -⟩ := h.applied key w hw
    exact iff_of_true ⟨e, he⟩ (Or.inr ⟨w, hw⟩)
  · rw [h.untouched key fun w hw => hgives ⟨w, hw⟩, or_iff_left hgives]

/-! ## Seeding -/

/-- A seed has been laid over a store, with the number of the values that were put there. -/
structure Overlaid (s : Store) (sown : List (String × Toml.Value)) (count : Nat) (s' : Store) : Prop where
  counted : count = plainCount sown
  /-- A value that has a place in a store is under its key, … -/
  applied : ∀ key v w, (key, v) ∈ sown → v.Becomes w →
    ∃ e, s'.find (some key) = some e ∧ e.key = key ∧ e.value = w
  /-- … and any other key, also one with a date, an array or a table, has the entry that it had, or none. -/
  untouched : ∀ key, (∀ v w, (key, v) ∈ sown → ¬v.Becomes w) → s'.find (some key) = s.find (some key)
  /-- The entries are in strictly increasing order of the keys, also on a walk. -/
  ascending : Ascending s'.toList
  walk : s'.walk = s'.toList
  keys : s'.keys = s.keys ∪ keysOf sown
  size : s'.size = (s.keys ∪ keysOf sown).card
  /-- A second time as many values are put there, and the store is the same, whatever memory is granted. -/
  again : ∀ memory, s'.seed memory sown = (.ok count, s')

/-- What a seed does to every key tells the rest. -/
theorem Laid.overlaid (hlaid : s.Laid sown s') (h : s.Reachable) (h' : s'.Reachable) :
    s.Overlaid sown (plainCount sown) s' := by
  obtain ⟨l, hs⟩ := h.exists_lists
  obtain ⟨l', hs'⟩ := h'.exists_lists
  have hunion := hlaid.keys_eq hs hs'
  refine ⟨rfl, fun key v w hmem hw => ?_, fun key hnone => ?_, ?_, ?_, hunion, ?_, fun memory => ?_⟩
  · obtain ⟨e, hfind, hvalue⟩ := hlaid.applied key w ⟨v, hmem, hw⟩
    exact ⟨e, hfind, (hs'.find_eq_some_iff.mp hfind).2, hvalue⟩
  · refine hlaid.untouched key fun w => ?_
    rintro ⟨v, hmem, hw⟩
    exact hnone v w hmem hw
  · rw [hs'.toList_eq]
    exact hs'.ascending
  · rw [hs'.walk_eq, hs'.toList_eq]
  · rw [hs'.size_eq_card, hunion]
  · exact seed_of_laid hs' h'.settled memory hlaid.applied

/-- **A seed is laid over a store**, whatever this holds: it gives its keys their values and touches no other, and a
second time it changes nothing. -/
theorem seeding_overlays {s s' : Store} (h : s.Reachable) {sown : List (String × Toml.Value)}
    (hkeys : (sown.map Prod.fst).Nodup) {memory : Memory} {count : Nat}
    (hseed : s.seed memory sown = (.ok count, s')) : s.Overlaid sown count s' := by
  obtain ⟨hlaid, hreach, rfl⟩ := laid_of_seed h hkeys hseed
  exact hlaid.overlaid h hreach

/-- A store with two texts, one of them in a long buffer, and a blob. -/
def overgrown : Store :=
  Store.empty.after
    [.set .unbounded (some "host") (.string "a rather long name"), .set .unbounded (some "port") (.string "http"),
      .set .unbounded (some "since") (.blob [1, 2, 3])]

/-- A new key, a short text for a long one, a number for a text, and an array for which there is no place. -/
def mixedSeed : List (String × Toml.Value) :=
  [("debug", .boolean true), ("host", .string "here"), ("port", .integer 80), ("since", .array [])]

theorem seeding_overlays_overgrown :
    overgrown.Reachable ∧ (mixedSeed.map Prod.fst).Nodup ∧
      overgrown.Overlaid mixedSeed 3 (overgrown.seed .unbounded mixedSeed).2 ∧
      (overgrown.seed .unbounded mixedSeed).2.toList.map (fun e => (e.key, e.value, e.room)) =
        [("debug", .int 1, 0), ("host", .string "here", 18), ("port", .long 80, 0), ("since", .blob [1, 2, 3], 3)] := by
  have hreachable : overgrown.Reachable := (((Reachable.initial .empty).call _).call _).call _
  have hkeys : (mixedSeed.map Prod.fst).Nodup := by decide +kernel
  have hcount : (overgrown.seed .unbounded mixedSeed).1.toOption = some 3 := by decide +kernel
  have hseed : overgrown.seed .unbounded mixedSeed = (.ok 3, (overgrown.seed .unbounded mixedSeed).2) := by
    rcases hrun : overgrown.seed .unbounded mixedSeed with ⟨err | n, t⟩
    · rw [hrun] at hcount
      cases hcount
    · rw [hrun] at hcount
      cases hcount
      rfl
  exact ⟨hreachable, hkeys, seeding_overlays hreachable hkeys hseed, by decide +kernel⟩

end Store

end EventLoop
