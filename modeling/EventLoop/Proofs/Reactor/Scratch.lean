import EventLoop.Proofs.Reactor.Readiness

/-!
# The scratch of a tick

A tick keeps the entries of its wait, and for each group the position of its entry, in two lists that stay
with the reactor when the tick ends. `Reactor.fill` is how a tick prepares them, and `Reactor.collectOn` how it
selects by them after the wait.

* `fill_eq` — what is prepared does not depend on what was left there before.
* `map_firedAt_fill` — the positions lead every group to the conditions reported for its own entry.
* `collectOn_fill` — so selecting by the lists is `Reactor.collect`.
-/

namespace EventLoop

variable {α : Type}

/-! ## The lists -/

/-- The entries of a wait, and for each group the position of its entry. -/
structure Scratch where
  entries : List PollEntry
  slots : List (Option Nat)

namespace Scratch

def clear (_ : Scratch) : Scratch := { entries := [], slots := [] }

/-- Adds a group, with its entry if it has one. -/
def push (s : Scratch) : Option PollEntry → Scratch
  | some e => { entries := s.entries ++ [e], slots := s.slots ++ [some s.entries.length] }
  | none => { s with slots := s.slots ++ [none] }

/-- Writes conditions into entries, in order. -/
def answer : List PollEntry → List Conditions → List PollEntry
  | e :: entries, c :: reported => { e with reported := c } :: answer entries reported
  | entries, _ => entries

/-- The lists after a wait that has reported conditions. -/
def report (s : Scratch) (reported : List Conditions) : Scratch :=
  { s with entries := answer s.entries reported }

/-- The events in the entry at a position; none if there is no such entry. -/
def firedIn (entries : List PollEntry) (slot : Option Nat) : Events :=
  ((slot.bind fun k => entries[k]?).map PollEntry.fired).getD .none

/-- The events that came about for the group at a position. -/
def firedAt (s : Scratch) (i : Nat) : Events := firedIn s.entries s.slots[i]?.join

end Scratch

namespace Reactor

/-- The lists filled anew for the groups of a reactor. -/
def fill (r : Reactor α) (s : Scratch) : Scratch :=
  r.active.foldl (fun s g => s.push (r.entryOf g)) s.clear

/-- Selects by what the lists say. -/
def collectOn (r : Reactor α) (s : Scratch) (now : Instant) : Reactor α :=
  let selected := r.active.zipIdx.foldl (fun x p => selectIn now x p.1 (s.firedAt p.2)) r
  let (active, groups) := retire selected.active selected.groups
  { selected with active, groups }

/-! ## What the lists say -/

/-- The positions of the entries of groups, from a first one on. -/
def slotsFrom (r : Reactor α) (k : Nat) : List Handle → List (Option Nat)
  | [] => []
  | g :: rest =>
    match r.entryOf g with
    | some _ => some k :: slotsFrom r (k + 1) rest
    | none => none :: slotsFrom r k rest

theorem length_slotsFrom (r : Reactor α) (gs : List Handle) (k : Nat) :
    (r.slotsFrom k gs).length = gs.length := by
  induction gs generalizing k with
  | nil => rfl
  | cons g gs ih =>
    unfold slotsFrom
    split
    · rw [List.length_cons, ih, List.length_cons]
    · rw [List.length_cons, ih, List.length_cons]

theorem foldl_push (r : Reactor α) (gs : List Handle) (s : Scratch) :
    gs.foldl (fun s g => s.push (r.entryOf g)) s =
      { entries := s.entries ++ gs.filterMap r.entryOf
        slots := s.slots ++ r.slotsFrom s.entries.length gs } := by
  induction gs generalizing s with
  | nil => simp [slotsFrom]
  | cons g gs ih =>
    rw [List.foldl_cons, ih, slotsFrom, List.filterMap_cons]
    cases hg : r.entryOf g with
    | none => simp [Scratch.push]
    | some e => simp [Scratch.push]

theorem fill_eq (r : Reactor α) (s : Scratch) :
    r.fill s = { entries := r.pollSet, slots := r.slotsFrom 0 r.active } := by
  unfold fill
  rw [foldl_push]
  rfl

theorem answer_getElem? (entries : List PollEntry) (reported : List Conditions) (k : Nat) :
    (Scratch.answer entries reported)[k]? =
      entries[k]?.map fun e => { e with reported := reported[k]?.getD e.reported } := by
  induction entries generalizing reported k with
  | nil => simp [Scratch.answer]
  | cons e entries ih =>
    cases reported with
    | nil => cases k <;> simp [Scratch.answer]
    | cons c reported =>
      cases k with
      | zero => rfl
      | succ k => exact ih reported k

theorem reported_of_entryOf {r : Reactor α} {g : Handle} {e : PollEntry} (h : r.entryOf g = some e) :
    e.reported = .none := by
  obtain ⟨group, number, -, -, -, rfl⟩ := entryOf_eq_some.mp h
  rfl

/-- The induction is on the groups, with the entries of those before them in front. -/
theorem zip_slotsFrom (r : Reactor α) (reported : List Conditions) {gs : List Handle} {k : Nat}
    {entries : List PollEntry} (hk : entries.drop k = gs.filterMap r.entryOf) :
    (gs.zip (r.slotsFrom k gs)).map
        (fun p => (p.1, Scratch.firedIn (Scratch.answer entries reported) p.2)) =
      r.firedOf gs (reported.drop k) := by
  induction gs generalizing k with
  | nil => rfl
  | cons g gs ih =>
    rw [List.filterMap_cons] at hk
    unfold slotsFrom firedOf
    cases hg : r.entryOf g with
    | none =>
      rw [hg] at hk
      simp only [List.zip_cons_cons, List.map_cons, ih hk]
      rfl
    | some e =>
      rw [hg] at hk
      have he : entries[k]? = some e := by
        rw [← Nat.add_zero k, ← List.getElem?_drop, hk]
        rfl
      have hrest : entries.drop (k + 1) = gs.filterMap r.entryOf := by
        rw [← List.drop_drop, hk]
        rfl
      have hfired : Scratch.firedIn (Scratch.answer entries reported) (some k) =
          (reported[k]?.getD .none).fired := by
        unfold Scratch.firedIn
        rw [Option.bind_some, answer_getElem?, he, Option.map_some, Option.map_some,
          reported_of_entryOf hg]
        rfl
      simp only [List.zip_cons_cons, List.map_cons, ih hrest, hfired]
      rw [← List.drop_drop]
      cases hc : reported.drop k with
      | nil =>
        rw [List.getElem?_eq_none (List.drop_eq_nil_iff.mp hc), Option.getD_none, Conditions.fired_none]
        rfl
      | cons c rest =>
        have hget : reported[k]? = some c := by
          rw [← Nat.add_zero k, ← List.getElem?_drop, hc]
          rfl
        rw [hget]
        rfl

/-- **The positions lead every group to the conditions reported for its own entry.** -/
theorem map_firedAt_fill (r : Reactor α) (s : Scratch) (reported : List Conditions) :
    r.active.zipIdx.map (fun p => (p.1, ((r.fill s).report reported).firedAt p.2)) =
      r.firedOf r.active reported := by
  have hzip : (r.active.zip (r.slotsFrom 0 r.active)).map
      (fun p => (p.1, Scratch.firedIn (Scratch.answer r.pollSet reported) p.2)) =
        r.firedOf r.active reported := zip_slotsFrom r reported rfl
  rw [fill_eq, ← hzip]
  refine List.ext_getElem? fun i => ?_
  rw [List.getElem?_map, List.getElem?_map, List.getElem?_zipIdx, Nat.zero_add]
  cases hg : r.active[i]? with
  | none =>
    rw [List.getElem?_eq_none (by simpa [length_slotsFrom] using hg)]
    rfl
  | some g =>
    have hi : i < (r.slotsFrom 0 r.active).length := by
      rw [length_slotsFrom]
      exact (List.getElem?_eq_some_iff.mp hg).1
    have hslot := List.getElem?_eq_getElem hi
    have hpair : (r.active.zip (r.slotsFrom 0 r.active))[i]? = some (g, (r.slotsFrom 0 r.active)[i]) :=
      List.getElem?_zip_eq_some.mpr ⟨hg, hslot⟩
    rw [hpair]
    simp only [Option.map_some, Scratch.firedAt, Scratch.report, hslot, Option.join_some]

/-- **Selecting by the lists is selecting by what was reported.** -/
theorem collectOn_fill (r : Reactor α) (s : Scratch) (reported : List Conditions) (now : Instant) :
    r.collectOn ((r.fill s).report reported) now = r.collect reported now := by
  unfold collectOn collect
  rw [← map_firedAt_fill r s reported, List.foldl_map]

end Reactor

end EventLoop
