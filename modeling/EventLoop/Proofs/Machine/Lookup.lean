import EventLoop.Proofs.Machine.Cancellation
import EventLoop.Proofs.Machine.Standing

/-!
# Looking up and withdrawing

A notification can be found by its descriptor and its callback. Of several the one that was registered first is
found, and a notification that was selected is not found any more. To withdraw all of them one looks up and
withdraws until nothing is found.

* `Machine.FindsFirst` — what a lookup finds at a moment of a run.
* `Host.WithdrawsFound` — lookups and withdrawals until nothing is found, with the answers.
* `Host.exists_withdrawsFound` — they withdraw all that can be found, one in each round, and come to an end.
* `finds_in_registration_order` — both, at any moment.
-/

namespace EventLoop

variable {σ α : Type}

/-! ## Finding -/

namespace Machine

/-- What a lookup finds after a number of steps. -/
structure FindsFirst (host : Host σ α) (m : Machine σ α) (n : Nat) (d : Descriptor) (callback : Callback) : Prop where
  /-- It finds the registration that was made first of those that stand for the descriptor and the callback, … -/
  found : ∀ h, (m.reactorAt host n).lookup d callback = some h ↔
    ∃ j, m.StandsFor host n j h d callback ∧ ∀ k h', m.StandsFor host n k h' d callback → j ≤ k
  /-- … and nothing exactly if there is none. -/
  missing : (m.reactorAt host n).lookup d callback = none ↔ ∀ j h, ¬m.StandsFor host n j h d callback
  /-- All of them, … -/
  all : ∀ h, h ∈ (m.reactorAt host n).waitingWith d callback ↔ ∃ j, m.StandsFor host n j h d callback
  /-- … each once, … -/
  once : ((m.reactorAt host n).waitingWith d callback).Nodup
  /-- … in the order of their registration. -/
  order : ((m.reactorAt host n).waitingWith d callback).Pairwise fun a b =>
    ∀ i j, m.StandsFor host n i a d callback → m.StandsFor host n j b d callback → i < j

variable {host : Host σ α} {m : Machine σ α} {n : Nat} {d : Descriptor} {callback : Callback}

theorem lookup_eq_some_iff (hm : m.system.reactor.Initial) {h : Handle} :
    (m.reactorAt host n).lookup d callback = some h ↔
      ∃ j, m.StandsFor host n j h d callback ∧ ∀ k h', m.StandsFor host n k h' d callback → j ≤ k := by
  have hmem : ∀ h, h ∈ (m.reactorAt host n).waitingWith d callback ↔ ∃ j, m.StandsFor host n j h d callback :=
    fun _ => mem_waitingWith_iff hm
  have horder : ((m.reactorAt host n).waitingWith d callback).Pairwise fun a b =>
      ∀ i j, m.StandsFor host n i a d callback → m.StandsFor host n j b d callback → i < j :=
    waitingWith_in_order hm n d callback
  rw [Reactor.lookup_eq_head?]
  cases hW : (m.reactorAt host n).waitingWith d callback with
  | nil =>
    rw [hW] at hmem
    refine ⟨nofun, ?_⟩
    rintro ⟨j, hj, -⟩
    cases (hmem h).mpr ⟨j, hj⟩
  | cons first rest =>
    rw [hW] at hmem horder
    have hafter := (List.pairwise_cons.mp horder).1
    obtain ⟨i, hi⟩ := (hmem first).mp List.mem_cons_self
    rw [List.head?_cons, Option.some.injEq]
    constructor
    · rintro rfl
      refine ⟨i, hi, fun k h' hk => ?_⟩
      rcases List.mem_cons.mp ((hmem h').mpr ⟨k, hk⟩) with rfl | hrest
      · exact Nat.le_of_eq ((hi.lastGiven hm).unique (hk.lastGiven hm))
      · exact Nat.le_of_lt (hafter h' hrest i k hi hk)
    · rintro ⟨j, hj, hleast⟩
      rcases List.mem_cons.mp ((hmem h).mpr ⟨j, hj⟩) with rfl | hrest
      · rfl
      · have hlt := hafter h hrest i j hi hj
        have hle := hleast i first hi
        omega

theorem findsFirst (hm : m.system.reactor.Initial) (n : Nat) (d : Descriptor) (callback : Callback) :
    m.FindsFirst host n d callback where
  found _ := lookup_eq_some_iff hm
  missing := by
    rw [Reactor.lookup_eq_none_iff, List.eq_nil_iff_forall_not_mem, forall_comm]
    refine forall_congr' fun h => ?_
    rw [mem_waitingWith_iff hm, not_exists]
  all _ := mem_waitingWith_iff hm
  once := ((wellFormed_reactorAt host (Reactor.wellFormed_of_initial hm) n).waitingOn_nodup d).filter _
  order := waitingWith_in_order hm n d callback

end Machine

/-! ## Withdrawing what is found -/

namespace Host

variable {host : Host σ α} {y : System σ α} {d : Descriptor} {callback : Callback}

/-- Looks up and withdraws until nothing is found: what was found in each round with the answer to its withdrawal,
and the system afterwards. -/
inductive WithdrawsFound (host : Host σ α) (d : Descriptor) (callback : Callback) :
    System σ α → List (Handle × Except ReactorError Unit) → System σ α → Prop where
  | done {y : System σ α} (missing : y.reactor.lookup d callback = none) : WithdrawsFound host d callback y [] y
  | round {y y' : System σ α} {h : Handle} {rest : List (Handle × Except ReactorError Unit)}
      (found : y.reactor.lookup d callback = some h)
      (others : WithdrawsFound host d callback (host.cancel y h).2 rest y') :
      WithdrawsFound host d callback y ((h, (host.cancel y h).1) :: rest) y'

/-- There is one way for the rounds to go. -/
theorem WithdrawsFound.unique {rounds rounds' : List (Handle × Except ReactorError Unit)} {y₁ y₂ : System σ α}
    (w : host.WithdrawsFound d callback y rounds y₁) (w' : host.WithdrawsFound d callback y rounds' y₂) :
    rounds' = rounds ∧ y₂ = y₁ := by
  induction w generalizing rounds' with
  | done missing =>
    cases w' with
    | done => exact ⟨rfl, rfl⟩
    | round found => cases missing.symm.trans found
  | round found others ih =>
    cases w' with
    | done missing => cases missing.symm.trans found
    | round found' others' =>
      cases found.symm.trans found'
      obtain ⟨hrounds, hsystem⟩ := ih others'
      exact ⟨by rw [hrounds], hsystem⟩

/-- **The rounds withdraw all that can be found, one each.** The induction is on the list of what can be found; a
withdrawal takes the first out of it. -/
theorem exists_withdrawsFound (host : Host σ α) (hy : y.reactor.WellFormed) (d : Descriptor) (callback : Callback) :
    ∃ y', host.WithdrawsFound d callback y ((y.reactor.waitingWith d callback).map fun h => (h, .ok ())) y' ∧
      y'.reactor.lookup d callback = none ∧ y.reactor.Sheds (y.reactor.waitingWith d callback) y'.reactor := by
  generalize hW : y.reactor.waitingWith d callback = W
  induction W generalizing y with
  | nil =>
    have hmissing : y.reactor.lookup d callback = none := Reactor.lookup_eq_none_iff.mpr hW
    exact ⟨y, .done hmissing, hmissing, hy.sheds_nil⟩
  | cons h rest ih =>
    have hfound : y.reactor.lookup d callback = some h := by
      rw [Reactor.lookup_eq_head?, hW]
      rfl
    have hmem : h ∈ y.reactor.waitingWith d callback := hW ▸ List.mem_cons_self
    have hpends : y.reactor.isPending h = true := by
      obtain ⟨v, hv, -⟩ := hy.mem_waitingOn.mp (Reactor.mem_waitingWith.mp hmem).1
      exact Pool.contains_eq_true.mpr ⟨v, hv⟩
    rcases host.cancel_cases hy h with ⟨-, hok, hw⟩ | ⟨hstale, -⟩
    · have hrest : (host.cancel y h).2.reactor.waitingWith d callback = rest := by
        have hnodup : (h :: rest).Nodup := hW ▸ (hy.waitingOn_nodup d).filter _
        rw [hw.waitingWith_eq hy, hW, List.filter_cons_of_neg (by simp)]
        exact Reactor.filter_ne_of_not_mem (List.nodup_cons.mp hnodup).1
      obtain ⟨y', hwithdraws, hmissing, hsheds⟩ := ih (hw.wellFormed hy) hrest
      have hround := WithdrawsFound.round hfound hwithdraws
      rw [hok] at hround
      exact ⟨y', hround, hmissing, hw.sheds hsheds⟩
    · rw [hstale] at hpends
      cases hpends

/-- What comes of looking up and withdrawing until nothing is found. -/
structure WithdrawsAll (host : Host σ α) (d : Descriptor) (callback : Callback) (y : System σ α) : Prop where
  /-- It comes to an end. There is a round for each notification that can be found, in order, … -/
  ends : ∃ y', host.WithdrawsFound d callback y ((y.reactor.waitingWith d callback).map fun h => (h, .ok ())) y'
  /-- … and no other end. Nothing can be found there, and nothing else is gone. -/
  clears : ∀ rounds y', host.WithdrawsFound d callback y rounds y' →
    rounds = (y.reactor.waitingWith d callback).map (fun h => (h, .ok ())) ∧
      y'.reactor.lookup d callback = none ∧ y.reactor.Clears d callback y'.reactor

theorem withdrawsAll (host : Host σ α) (hy : y.reactor.WellFormed) (d : Descriptor) (callback : Callback) :
    host.WithdrawsAll d callback y := by
  obtain ⟨y', hwithdraws, hmissing, hsheds⟩ := host.exists_withdrawsFound hy d callback
  refine ⟨⟨y', hwithdraws⟩, fun rounds y₂ w => ?_⟩
  obtain ⟨rfl, rfl⟩ := hwithdraws.unique w
  exact ⟨rfl, hmissing, hsheds.clears hy⟩

end Host

/-- **At every moment a lookup finds what was registered first, and lookups and withdrawals in turn withdraw all
that it could find, in the order of registration, and nothing else.** -/
theorem finds_in_registration_order {y : System σ α} (hy : y.reactor.Initial) (host : Host σ α) (p : Program σ α)
    (n : Nat) (d : Descriptor) (callback : Callback) :
    (Machine.start y p).FindsFirst host n d callback ∧
      host.WithdrawsAll d callback ((Machine.start y p).run host n).system :=
  ⟨Machine.findsFirst (m := Machine.start y p) hy n d callback,
    host.withdrawsAll (Machine.wellFormed_reactorAt host (Reactor.wellFormed_of_initial hy) n) d callback⟩

/-- To be notified by another callback. -/
def Request.toNotice : Request Unit := { Host.toWrite with callback := ⟨1⟩ }

/-- Registers twice for reading, for writing with two callbacks in turn, and runs one tick. -/
def Program.interleaved : Program Unit Unit :=
  .register .toRead fun _ => .register .toRead fun _ => .register Host.toWrite fun _ =>
    .register .toNotice fun _ => .register Host.toWrite fun _ => .tick fun _ => .done

/-- The first of two callbacks runs, and the second one is queued and not found. Of three notifications in a group two
are withdrawn, and the group stays. -/
theorem finds_in_registration_order_interleaved :
    System.unused.reactor.Initial ∧
      ((Machine.start .unused .interleaved).FindsFirst .steady 7 (.fd 4) ⟨0⟩ ∧
        Host.steady.WithdrawsAll (.fd 4) ⟨0⟩ ((Machine.start .unused .interleaved).run .steady 7).system) ∧
      ((Machine.start .unused .interleaved).run .steady 7).inTick = true ∧
      ((Machine.start .unused .interleaved).reactorAt .steady 7).ready = [⟨1, 0⟩] ∧
      ((Machine.start .unused .interleaved).reactorAt .steady 7).lookup (.fd 3) ⟨0⟩ = none ∧
      ((Machine.start .unused .interleaved).reactorAt .steady 7).waitingWith (.fd 4) ⟨0⟩ = [⟨2, 0⟩, ⟨4, 0⟩] ∧
      ((Machine.start .unused .interleaved).reactorAt .steady 7).waitingOn (.fd 4) = [⟨2, 0⟩, ⟨3, 0⟩, ⟨4, 0⟩] :=
  ⟨.empty _, finds_in_registration_order (y := .unused) (.empty _) .steady .interleaved 7 (.fd 4) ⟨0⟩, by rfl, by rfl,
    by rfl, by rfl, by rfl⟩

end EventLoop
