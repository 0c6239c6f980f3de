import EventLoop.Proofs.Store.Search
import EventLoop.Proofs.Toml.Keys
import EventLoop.Settings.Decode

/-!
# The seed of settings that are read

Wherever settings come from, the keys of their seed are in strictly increasing order, so that none is there twice.

* `keys_of_revealEntries` — the dates that hide in a seed change no key.
* `ascending_of_seed?` — a seed is sorted by its keys.
* `ascending_of_load`, `nodup_of_load` — so is the seed of all settings that are read.
-/

namespace EventLoop

namespace Toml

variable {entries : List (String × Value)} {v w : Value}

theorem Value.Keyed.of_lookup? (h : (Value.table entries).Keyed) {key : String}
    (hw : lookup? entries key = some w) : w.Keyed := by
  obtain ⟨e, he, rfl⟩ := Option.map_eq_some_iff.mp hw
  cases h with
  | table _ values => exact values e (List.mem_of_find?_eq_some he)

/-- The fields of a section have it if the section has it. -/
theorem Value.Keyed.of_fields? (h : v.Keyed) {names : List String} {fields : List (Option Value)}
    (hfields : fields? names v = some fields) (hw : some w ∈ fields) : w.Keyed := by
  unfold fields? at hfields
  split at hfields
  · cases hfields
    obtain ⟨key, -, hlookup⟩ := List.mem_map.mp hw
    exact h.of_lookup? hlookup
  · cases hfields
    obtain ⟨i, -, hitem⟩ := List.mem_map.mp hw
    cases h with
    | array values => exact values w (List.mem_of_getElem? hitem)
  · cases hfields
    obtain ⟨key, -, hnone⟩ := List.mem_map.mp hw
    cases hnone
  · cases hfields

/-- The dates that hide in the entries of a table change none of its keys. The induction is on the entries. -/
theorem keys_of_revealEntries {revealed : List (String × Value)} (h : revealEntries entries = some revealed) :
    revealed.map Prod.fst = entries.map Prod.fst := by
  induction entries generalizing revealed with
  | nil =>
    rw [revealEntries] at h
    cases h
    rfl
  | cons e rest ih =>
    obtain ⟨key, v⟩ := e
    rw [revealEntries] at h
    obtain ⟨w, -, h⟩ := Option.bind_eq_some_iff.mp h
    obtain ⟨ws, hws, h⟩ := Option.bind_eq_some_iff.mp h
    cases h
    rw [List.map_cons, List.map_cons, ih hws]

theorem nodup_of_entries? (h : v.Keyed) (hentries : v.entries? = some entries) : (entries.map Prod.fst).Nodup := by
  unfold Value.entries? at hentries
  split at hentries
  · cases hentries
    cases h with
    | table nodup _ => exact nodup
  · cases hentries
    exact List.nodup_singleton _
  · cases hentries

end Toml

namespace Settings

/-- The keys are in strictly increasing order. -/
def KeysAscend (seed : List (String × Toml.Value)) : Prop := seed.Pairwise fun a b => keyBefore a.1 b.1 = true

theorem KeysAscend.nodup {seed : List (String × Toml.Value)} (h : KeysAscend seed) : (seed.map Prod.fst).Nodup :=
  List.pairwise_map.mpr (h.imp ne_of_keyBefore)

theorem not_keyBefore_iff {a b : String} : (!keyBefore b a) = true ↔ keyBefore a b = true ∨ a = b := by
  rw [Bool.not_eq_true']
  constructor
  · intro hle
    rcases keyBefore_trichotomy a b with hlt | heq | hgt
    · exact Or.inl hlt
    · exact Or.inr heq
    · rw [hgt] at hle
      cases hle
  · rintro (hlt | rfl)
    · exact keyBefore_asymm hlt
    · exact keyBefore_irrefl a

/-- Entries that have their keys once are sorted strictly. -/
theorem keysAscend_mergeSort {entries : List (String × Toml.Value)} (hnodup : (entries.map Prod.fst).Nodup) :
    KeysAscend (entries.mergeSort fun a b => !keyBefore b.1 a.1) := by
  have htrans : ∀ a b c : String × Toml.Value,
      (!keyBefore b.1 a.1) = true → (!keyBefore c.1 b.1) = true → (!keyBefore c.1 a.1) = true := by
    intro a b c
    simp only [not_keyBefore_iff]
    rintro (hab | hab) (hbc | hbc)
    · exact Or.inl (keyBefore_trans hab hbc)
    · exact Or.inl (hbc ▸ hab)
    · exact Or.inl (hab ▸ hbc)
    · exact Or.inr (hab.trans hbc)
  have htotal : ∀ a b : String × Toml.Value, (!keyBefore b.1 a.1 || !keyBefore a.1 b.1) = true := by
    intro a b
    cases hba : keyBefore b.1 a.1 with
    | false => rfl
    | true => rw [keyBefore_asymm hba]; rfl
  have hsorted := List.pairwise_mergeSort htrans htotal entries
  have hdistinct : ((entries.mergeSort fun a b => !keyBefore b.1 a.1).map Prod.fst).Nodup :=
    ((List.mergeSort_perm entries _).map Prod.fst).nodup_iff.mpr hnodup
  refine (hsorted.and (List.pairwise_map.mp hdistinct)).imp ?_
  rintro a b ⟨hle, hne⟩
  exact (not_keyBefore_iff.mp hle).resolve_right hne

/-- **A seed is in strictly increasing order of its keys.** -/
theorem ascending_of_seed? {v : Toml.Value} (h : v.Keyed) {seed : List (String × Toml.Value)}
    (hseed : seed? v = some seed) : KeysAscend seed := by
  unfold seed? at hseed
  obtain ⟨entries, hentries, hseed⟩ := Option.bind_eq_some_iff.mp hseed
  obtain ⟨revealed, hrevealed, hseed⟩ := Option.bind_eq_some_iff.mp hseed
  cases hseed
  refine keysAscend_mergeSort ?_
  rw [Toml.keys_of_revealEntries hrevealed]
  exact Toml.nodup_of_entries? h hentries

theorem ascending_of_store? {v : Toml.Value} (h : v.Keyed) {store : StoreSettings} (hstore : store? v = some store) :
    KeysAscend store.seed := by
  unfold store? at hstore
  obtain ⟨fields, hfields, hstore⟩ := Option.bind_eq_some_iff.mp hstore
  split at hstore
  · next entries seed =>
    obtain ⟨count, -, hstore⟩ := Option.bind_eq_some_iff.mp hstore
    obtain ⟨sown, hsown, hstore⟩ := Option.bind_eq_some_iff.mp hstore
    cases hstore
    cases seed with
    | none =>
      cases hsown
      exact List.Pairwise.nil
    | some w => exact ascending_of_seed? (h.of_fields? hfields (by simp)) hsown
  · cases hstore

theorem ascending_of_ofTable? {entries : List (String × Toml.Value)} (h : (Toml.Value.table entries).Keyed)
    {settings : Settings} (hsettings : ofTable? entries = some settings) : KeysAscend settings.store.seed := by
  unfold ofTable? at hsettings
  obtain ⟨reactor, -, hsettings⟩ := Option.bind_eq_some_iff.mp hsettings
  obtain ⟨store, hstore, hsettings⟩ := Option.bind_eq_some_iff.mp hsettings
  obtain ⟨logging, -, hsettings⟩ := Option.bind_eq_some_iff.mp hsettings
  obtain ⟨driver, -, hsettings⟩ := Option.bind_eq_some_iff.mp hsettings
  cases hsettings
  unfold field at hstore
  split at hstore
  · cases hstore
    exact List.Pairwise.nil
  · next v hlookup => exact ascending_of_store? (h.of_lookup? hlookup) hstore

/-- **The seed of all settings that are read is in strictly increasing order of its keys.** -/
theorem ascending_of_load {source : Source} {settings : Settings} (h : load source = .ok settings) :
    KeysAscend settings.store.seed := by
  unfold load at h
  split at h
  · cases h
    exact List.Pairwise.nil
  · cases h
  · split at h
    · unfold ofText at h
      split at h
      · cases h
      · next entries hparse =>
        split at h
        · cases h
        · next settings' hdecoded =>
          cases h
          exact ascending_of_ofTable? (Toml.Document.keyed_of_parse hparse) hdecoded
    · cases h

/-- No key is there twice. -/
theorem nodup_of_load {source : Source} {settings : Settings} (h : load source = .ok settings) :
    (settings.store.seed.map Prod.fst).Nodup := (ascending_of_load h).nodup

end Settings

end EventLoop
