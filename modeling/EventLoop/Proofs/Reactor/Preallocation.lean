import EventLoop.Proofs.Pool.Preallocation
import EventLoop.Proofs.Reactor.Ownership
import EventLoop.Proofs.Store.Write

/-!
# Pools, stores and reactors with slots set aside

A store has one pool and a reactor has two, and all of them can be made with slots set aside. Whoever makes them has
these slots as long as their positions fit 32 bits, and is refused only for want of memory.

* `error_of_ofCapacity`, `error_of_ofSettings` — why a store or a reactor is not made.
* `slots_set_aside` — when the slots are what they should be (`Prepared`).
-/

namespace EventLoop

/-- A store is refused only for want of memory. -/
theorem Store.error_of_ofCapacity {memory : Memory} {n : Nat} {e : StoreError}
    (h : Store.ofCapacity memory n = .error e) : e = .outOfMemory := by
  unfold Store.ofCapacity at h
  split at h
  · split at h
    · cases h
    · next err _ =>
      cases err
      exact (Except.error.inj h).symm
  · exact (Except.error.inj h).symm

/-- A reactor is refused only for want of memory. -/
theorem Reactor.error_of_ofSettings {β : Type} {memory : Memory} {settings : ReactorSettings} {e : ReactorError}
    (h : (Reactor.ofSettings memory settings : Except ReactorError (Reactor β)) = .error e) : e = .outOfMemory := by
  unfold Reactor.ofSettings at h
  split at h
  · split at h
    · cases h
    · exact (Except.error.inj h).symm
  · exact (Except.error.inj h).symm

/-- What becomes of slots that are to be set aside in a pool of objects of a kind, in a store, and in a reactor. -/
structure Prepared (α β : Type) [Poolable α] (memory : Memory) (n : Nat) (settings : ReactorSettings) : Prop where
  /-- A pool has them exactly if there are at most 2 ^ 32; … -/
  pool : ∀ p : Pool α, Pool.ofCapacity memory n = .ok p → (p.Preallocated n ↔ n ≤ 4294967296)
  /-- … with more, an object gets the handle of the one that was handed out 2 ^ 32 objects before. -/
  round : ∀ p : Pool α, Pool.ofCapacity memory n = .ok p → ∀ i, i + 4294967296 < n →
    ∃ hs q, p.handOut memory n = .ok (hs, q) ∧ hs[i]? = some ⟨UInt32.ofNat i, 0⟩ ∧
      hs[i + 4294967296]? = hs[i]?
  /-- So has a store, unless it is refused, … -/
  store : ∀ s, Store.ofCapacity memory n = .ok s → (s.entries.Preallocated n ↔ n ≤ 4294967296)
  noStore : ∀ e, Store.ofCapacity memory n = .error e → e = .outOfMemory
  /-- … and so has a reactor in both of its pools. -/
  groups : ∀ r : Reactor β, Reactor.ofSettings memory settings = .ok r →
    (r.groups.Preallocated settings.groups.toNat ↔ settings.groups.toNat ≤ 4294967296)
  notifications : ∀ r : Reactor β, Reactor.ofSettings memory settings = .ok r →
    (r.notifications.Preallocated settings.notifications.toNat ↔ settings.notifications.toNat ≤ 4294967296)
  noReactor : ∀ e, (Reactor.ofSettings memory settings : Except ReactorError (Reactor β)) = .error e →
    e = .outOfMemory

/-- **Slots are set aside as they should be exactly if there are at most 2 ^ 32 of them**, in pools, stores and
reactors alike. -/
theorem slots_set_aside (α β : Type) [Poolable α] (memory : Memory) (n : Nat) (settings : ReactorSettings) :
    Prepared α β memory n settings where
  pool _ made := Pool.preallocated_iff made
  round _ made _ hi := Pool.handles_come_round made hi
  store s made := by
    obtain ⟨entries, hpool, rfl⟩ := Store.ofCapacity_cases made
    exact Pool.preallocated_iff hpool
  noStore _ := Store.error_of_ofCapacity
  groups r made := by
    obtain ⟨groups, notifications, hgroups, -, rfl⟩ := Reactor.ofSettings_cases made
    exact Pool.preallocated_iff hgroups
  notifications r made := by
    obtain ⟨groups, notifications, -, hnotifications, rfl⟩ := Reactor.ofSettings_cases made
    exact Pool.preallocated_iff hnotifications
  noReactor _ := Reactor.error_of_ofSettings

end EventLoop
