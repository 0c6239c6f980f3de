import EventLoop.Console.Run
import EventLoop.Proofs.Console.Entries
import EventLoop.Proofs.Settings.Decode
import EventLoop.Proofs.Store.Seeding

/-!
# The store of a console at its start

A console makes a store of the size that its settings ask for, and lays their seed over it. Settings that were read
name no key of the seed twice, so nothing has to be asked of them.

* `Store.overlaid_of_load` — the seed of settings that are read is laid over any store.
* `Console.seeded_of_start` — so every console that starts has a store as a session needs it.
* `Console.overlaid_of_start`, `Console.keys_of_start` — this store holds the values of the seed, and nothing else.
-/

namespace EventLoop

variable {source : Settings.Source} {settings : Settings}

/-- **The seed of settings that are read is laid over a store**, whatever this holds. -/
theorem Store.overlaid_of_load {s s' : Store} (h : s.Reachable) (hload : Settings.load source = .ok settings)
    {memory : Memory} {count : Nat} (hseed : s.seed memory settings.store.seed = (.ok count, s')) :
    s.Overlaid settings.store.seed count s' := by
  obtain ⟨hlaid, hreach, rfl⟩ := laid_of_seed h (Settings.nodup_of_load hload) hseed
  exact hlaid.overlaid h hreach

theorem Store.keys_of_ofCapacity {memory : Memory} {n : Nat} {s : Store} (h : Store.ofCapacity memory n = .ok s) :
    s.keys = ∅ := by
  obtain ⟨entries, -, rfl⟩ := ofCapacity_cases h
  rfl

namespace Console

/-! ## Setting up -/

/-- A session that was set up has the store that the seed was laid over. -/
theorem exists_seed_of_seeded {memory : Memory} {settings : StoreSettings} {said : Array Utterance}
    {session : Session} (h : seeded memory settings said = .ok session) :
    ∃ store count, Store.ofCapacity memory settings.entries.toNat = .ok store ∧
      store.seed memory settings.seed = (.ok count, session.store) := by
  unfold seeded at h
  split at h
  · cases h
  · next store hmade =>
    dsimp only at h
    split at h
    · cases h
    · next count store' hseed =>
      cases h
      exact ⟨store, count, hmade, hseed⟩

/-- The terminal of a console that starts has such a session. -/
theorem exists_seed_of_start {c : Circumstances} {console : Console} (hload : Settings.load source = .ok settings)
    (hstart : start c source = .ok console) :
    ∃ store count, Store.ofCapacity c.memory settings.store.entries.toNat = .ok store ∧
      store.seed c.memory settings.store.seed = (.ok count, console.terminal.session.store) := by
  unfold start at hstart
  rw [hload] at hstart
  dsimp only at hstart
  unfold ofSettings at hstart
  split at hstart
  · cases hstart
  · unfold withFilter at hstart
    split at hstart
    · cases hstart
    · split at hstart
      · cases hstart
      · next session hseeded =>
        split at hstart
        · cases hstart
        · cases hstart
          exact exists_seed_of_seeded hseeded

/-! ## What the store holds -/

variable {c : Circumstances} {console : Console}

/-- **The store of a console that starts was made and then seeded.** -/
theorem seeded_of_start (hload : Settings.load source = .ok settings)
    (few : settings.store.entries.toNat ≤ 4294967296) (hstart : start c source = .ok console) :
    console.terminal.session.store.Seeded := by
  obtain ⟨store, count, hmade, hseed⟩ := exists_seed_of_start hload hstart
  exact .mk (.ofCapacity few hmade) hseed

/-- **A console starts with its seed laid over a new store.** -/
theorem overlaid_of_start (hload : Settings.load source = .ok settings)
    (few : settings.store.entries.toNat ≤ 4294967296) (hstart : start c source = .ok console) :
    ∃ store count, Store.ofCapacity c.memory settings.store.entries.toNat = .ok store ∧
      store.Overlaid settings.store.seed count console.terminal.session.store := by
  obtain ⟨store, count, hmade, hseed⟩ := exists_seed_of_start hload hstart
  exact ⟨store, count, hmade, Store.overlaid_of_load (.initial (.ofCapacity few hmade)) hload hseed⟩

/-- **The keys of its store are those of the seed**, each with the value that the seed gives it. -/
theorem keys_of_start (hload : Settings.load source = .ok settings)
    (few : settings.store.entries.toNat ≤ 4294967296) (hstart : start c source = .ok console) :
    console.terminal.session.store.keys = Store.keysOf settings.store.seed ∧
      ∀ key v w, (key, v) ∈ settings.store.seed → v.Becomes w →
        ∃ e, console.terminal.session.store.find (some key) = some e ∧ e.value = w := by
  obtain ⟨store, count, hmade, hoverlaid⟩ := overlaid_of_start hload few hstart
  refine ⟨?_, fun key v w hmem hw => ?_⟩
  · rw [hoverlaid.keys, Store.keys_of_ofCapacity hmade, Finset.empty_union]
  · obtain ⟨e, hfind, -, hvalue⟩ := hoverlaid.applied key v w hmem hw
    exact ⟨e, hfind, hvalue⟩

end Console

end EventLoop
