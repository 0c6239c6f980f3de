import EventLoop.Proofs.Console.Lines
import EventLoop.Proofs.Store.Write
import EventLoop.Settings.Seed

/-!
# The entries of a session

A session writes to its store line after line, and the records of the store agree all the while. So a line that
fails leaves every entry as it was.

* `lists_of_seeded`, `lists_of_obeyAll` — the store of a session has its entries in order.
* `obey_of_error` — what comes of a line that fails.
-/

namespace EventLoop

namespace Store

/-- A store that was made and then seeded. -/
inductive Seeded : Store → Prop where
  | mk {memory : Memory} {made s : Store} {seed : List (String × Toml.Value)} {count : Nat}
      (initial : made.Initial) (seeded : made.seed memory seed = (.ok count, s)) : Seeded s

/-- A write that succeeds leaves entries in order. -/
theorem lists_of_set {s : Store} {l : List Entry} (hs : s.Lists l) (memory : Memory)
    (key : Option String) (v : Value) :
    ∃ l', (s.set memory key v).2.Lists l' ∧ ((s.set memory key v).1.isOk = false → l' = l) := by
  cases key with
  | none =>
    cases v with
    | void => exact ⟨[], lists_clear hs, fun h => Bool.noConfusion h⟩
    | _ => exact ⟨l, hs, fun _ => rfl⟩
  | some key =>
    obtain ⟨before, here, after, hc⟩ := exists_cut key hs.ascending
    by_cases hv : v = .void
    · subst hv
      exact ⟨before ++ after, (remove_of_cut hs hc).2, fun h => Bool.noConfusion h⟩
    · rcases set_of_cut hs hc memory hv with ⟨e, hok, -, hl⟩ | ⟨-, hl⟩
      · refine ⟨_, hl, fun h => ?_⟩
        rw [hok] at h
        cases h
      · exact ⟨l, hl, fun _ => rfl⟩

theorem lists_of_seed (memory : Memory) (seed : List (String × Toml.Value)) {s : Store} {l : List Entry}
    (hs : s.Lists l) : ∃ l', (s.seed memory seed).2.Lists l' := by
  induction seed generalizing s l with
  | nil => exact ⟨l, hs⟩
  | cons p rest ih =>
    obtain ⟨key, v⟩ := p
    unfold Store.seed
    cases v.stored? with
    | none => exact ih hs
    | some value =>
      obtain ⟨l', hl, -⟩ := lists_of_set hs memory (some key) value
      dsimp only
      rcases hset : s.set memory (some key) value with ⟨e | u, t⟩
      · rw [hset] at hl
        exact ⟨l', hl⟩
      · rw [hset] at hl
        exact ih hl

theorem lists_of_seeded {s : Store} (h : s.Seeded) : ∃ l, s.Lists l := by
  cases h with
  | @mk memory made s seed count initial seeded =>
    obtain ⟨l, hl⟩ := lists_of_seed memory seed (lists_of_initial initial)
    rw [seeded] at hl
    exact ⟨l, hl⟩

end Store

namespace Session

/-- A session that has done something, or has failed to, and has entries in order. -/
def Keeps (l : List Entry) (s : Session) (outcome : Except CommandError Unit × Session) : Prop :=
  ∃ l', outcome.2.store.Lists l' ∧
    (outcome.1.isOk = false → l' = l ∧ outcome.2 = { s with store := outcome.2.store })

variable (memory : Memory) {s : Session} {l : List Entry}

theorem keeps_write (hs : s.store.Lists l) (key : Option String) (v : Value) :
    Keeps l s (s.write memory key v) := by
  obtain ⟨l', hl, hfail⟩ := Store.lists_of_set hs memory key v
  refine ⟨l', ?_⟩
  unfold write
  rcases hset : s.store.set memory key v with ⟨e | u, store⟩
  · rw [hset] at hl hfail
    exact ⟨hl, fun _ => ⟨hfail rfl, rfl⟩⟩
  · rw [hset] at hl
    refine ⟨?_, fun h => Bool.noConfusion h⟩
    dsimp only
    rw [answer_eq]
    exact hl

theorem keeps_perform (hs : s.store.Lists l) (c : Command) : Keeps l s (s.perform memory c) := by
  unfold perform
  cases c with
  | set key kind text =>
    dsimp only
    cases Value.ofText kind text with
    | error e => exact ⟨l, hs, fun _ => ⟨rfl, rfl⟩⟩
    | ok v => exact keeps_write memory hs (some key) v
  | delete key =>
    obtain ⟨before, here, after, hc⟩ := exists_cut key hs.ascending
    refine ⟨before ++ after, ?_, fun h => Bool.noConfusion h⟩
    dsimp only
    rw [answer_eq]
    exact (Store.remove_of_cut hs hc).2
  | get key =>
    dsimp only
    cases s.store.find (some key) with
    | none => exact ⟨l, hs, fun h => Bool.noConfusion h⟩
    | some e => exact ⟨l, hs, fun h => Bool.noConfusion h⟩
  | list =>
    refine ⟨l, ?_, fun h => Bool.noConfusion h⟩
    dsimp only
    rw [sayLines_eq]
    exact hs
  | reset => exact keeps_write memory hs none .void
  | quit => exact ⟨l, hs, fun h => Bool.noConfusion h⟩

theorem keeps_execute (hs : s.store.Lists l) (line : String) : Keeps l s (s.execute memory line) := by
  unfold execute
  rcases Command.ofLine line with e | _ | c
  · exact ⟨l, hs, fun _ => ⟨rfl, rfl⟩⟩
  · exact ⟨l, hs, fun h => Bool.noConfusion h⟩
  · exact keeps_perform memory hs c

theorem lists_of_obey (hs : s.store.Lists l) (line : List UInt8) :
    ∃ l', (s.obey memory line).store.Lists l' := by
  obtain ⟨l', hl, -⟩ := keeps_execute memory hs (Text.Lenient.decode line)
  refine ⟨l', ?_⟩
  unfold obey
  rcases hexec : s.execute memory (Text.Lenient.decode line) with ⟨e | u, r⟩
  · rw [hexec] at hl
    exact hl
  · rw [hexec] at hl
    exact hl

/-- **The entries are in order after any number of lines.** -/
theorem lists_of_obeyAll (hs : s.store.Lists l) (ls : List (List UInt8)) :
    ∃ l', (s.obeyAll memory ls).store.Lists l' := by
  induction ls generalizing s l with
  | nil => exact ⟨l, hs⟩
  | cons line rest ih =>
    unfold obeyAll
    split
    · exact ⟨l, hs⟩
    · obtain ⟨l', hl⟩ := lists_of_obey memory hs line
      exact ih hl

/-- **A line that fails is answered with one line, leaves every entry as it was, and does not stop the
session.** -/
theorem obey_of_error (hs : s.store.Lists l) {line : List UInt8} {e : CommandError}
    (he : (s.execute memory (Text.Lenient.decode line)).1 = .error e) :
    (s.obey memory line).said = s.said.push (.line ("error: " ++ e.message)) ∧
      (s.obey memory line).store.toList = s.store.toList ∧
      (s.obey memory line).stopped = s.stopped := by
  obtain ⟨l', hl, hfail⟩ := keeps_execute memory hs (Text.Lenient.decode line)
  unfold obey
  rcases hexec : s.execute memory (Text.Lenient.decode line) with ⟨result, r⟩
  rw [hexec] at he hl hfail
  cases he
  obtain ⟨rfl, hr⟩ := hfail rfl
  dsimp only at hl hr ⊢
  rw [hr]
  exact ⟨rfl, hl.toList_eq.trans hs.toList_eq.symm, rfl⟩

end Session

end EventLoop
