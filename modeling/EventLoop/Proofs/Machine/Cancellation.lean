import EventLoop.Proofs.Machine.Retry
import EventLoop.Proofs.Reactor.Cancellation

/-!
# Withdrawing in any order

Notifications that wait in groups, some of which are left empty on the way, and notifications in the ready queue
may be withdrawn together. Each withdrawal succeeds, and what they leave does not depend on their order.

* `Host.cancelEach` — withdrawals one after another, with their answers.
* `sheds_of_cancelEach` — they succeed, and take away what they name and nothing else.
* `cancel_register` — a registration that is withdrawn at once has changed nothing.
* `cancels_in_any_order` — both, at any moment.
-/

namespace EventLoop

variable {σ α : Type}

theorem Reactor.Withdraws.isPending_eq {r r' : Reactor α} {h k : Handle} (w : r.Withdraws h r') (hk : k ≠ h) :
    r'.isPending k = r.isPending k := by
  rw [isPending, isPending, Pool.contains, Pool.contains, w.notifications.get?, if_neg hk]

namespace Host

variable {host : Host σ α} {y : System σ α}

/-- Withdraws notifications one after another: the answers, and the system afterwards. -/
def cancelEach (host : Host σ α) (y : System σ α) :
    List Handle → List (Except ReactorError Unit) × System σ α
  | [] => ([], y)
  | h :: rest =>
    let (answer, y) := host.cancel y h
    let (answers, y) := cancelEach host y rest
    (answer :: answers, y)

theorem cancelEach_cons (host : Host σ α) (y : System σ α) (h : Handle) (rest : List Handle) :
    host.cancelEach y (h :: rest) =
      ((host.cancel y h).1 :: (host.cancelEach (host.cancel y h).2 rest).1,
        (host.cancelEach (host.cancel y h).2 rest).2) := rfl

/-- **Withdrawals of different notifications all succeed, and take away what they name.** The induction is on the
list of handles; what a withdrawal leaves is well-formed, and the others still pend there. -/
theorem sheds_of_cancelEach (host : Host σ α) {hs : List Handle} (hy : y.reactor.WellFormed) (hnodup : hs.Nodup)
    (hpending : ∀ h ∈ hs, y.reactor.isPending h = true) :
    (host.cancelEach y hs).1 = hs.map (fun _ => .ok ()) ∧
      y.reactor.Sheds hs (host.cancelEach y hs).2.reactor := by
  induction hs generalizing y with
  | nil => exact ⟨rfl, hy.sheds_nil⟩
  | cons h rest ih =>
    obtain ⟨hnot, hrest⟩ := List.nodup_cons.mp hnodup
    have hfirst := hpending h List.mem_cons_self
    rcases host.cancel_cases hy h with ⟨-, hok, hw⟩ | ⟨hstale, -⟩
    · have hothers : ∀ k ∈ rest, (host.cancel y h).2.reactor.isPending k = true := by
        intro k hk
        rw [hw.isPending_eq (ne_of_mem_of_not_mem hk hnot)]
        exact hpending k (List.mem_cons_of_mem h hk)
      obtain ⟨hanswers, hsheds⟩ := ih (hw.wellFormed hy) hrest hothers
      rw [cancelEach_cons, hanswers, hok]
      exact ⟨rfl, hw.sheds hsheds⟩
    · rw [hstale] at hfirst
      cases hfirst

/-- A registration that is withdrawn at once. -/
theorem cancel_register {request : Request α} {h : Handle} (hy : y.reactor.WellFormed)
    (hok : (host.register y request).1 = .ok h) :
    (host.cancel (host.register y request).2 h).1 = .ok () ∧
      y.reactor.HoldsSame (host.cancel (host.register y request).2 h).2.reactor := by
  obtain ⟨due, hregistration⟩ := exists_registration_of_register hok
  have heffect : Reactor.Effect (host.registration y request) y.reactor (host.register y request).2.reactor :=
    effect_of_register hy
  have hwf := heffect.wellFormed hy
  rw [hregistration] at heffect
  cases heffect with
  | registered harms =>
    have hpends : (host.register y request).2.reactor.isPending h = true :=
      Pool.contains_eq_true.mpr ⟨_, (harms.notifications.get? h).trans (if_pos rfl)⟩
    rcases host.cancel_cases hwf h with ⟨-, hcancel, hw⟩ | ⟨hstale, -⟩
    · exact ⟨hcancel, harms.undone hy hw⟩
    · rw [hstale] at hpends
      cases hpends

/-- Withdrawals in a system do not depend on their order, and undo registrations. -/
structure CancelsFreely (host : Host σ α) (y : System σ α) : Prop where
  /-- Different notifications that are still to be dispatched can all be withdrawn. Whatever the order, exactly
  they are gone, … -/
  succeeds : ∀ {hs hs'}, hs.Nodup → (∀ h ∈ hs, y.reactor.isPending h = true) → hs'.Perm hs →
    (host.cancelEach y hs').1 = hs'.map (fun _ => .ok ()) ∧
      y.reactor.Sheds hs (host.cancelEach y hs').2.reactor
  /-- … and what is left stands where it stands after any other order. -/
  commutes : ∀ {hs hs'}, hs.Nodup → (∀ h ∈ hs, y.reactor.isPending h = true) → hs'.Perm hs →
    (host.cancelEach y hs).2.reactor.HoldsSame (host.cancelEach y hs').2.reactor ∧
      (host.cancelEach y hs').2.reactor.LooksLike (host.cancelEach y hs).2.reactor
  /-- The handle of a registration can be withdrawn at once. Everything then stands where it stood before, and no
  lookup finds anything else. -/
  undoes : ∀ {request h}, (host.register y request).1 = .ok h →
    (host.cancel (host.register y request).2 h).1 = .ok () ∧
      y.reactor.HoldsSame (host.cancel (host.register y request).2 h).2.reactor ∧
        (host.cancel (host.register y request).2 h).2.reactor.LooksLike y.reactor

/-- **At every moment, withdrawals do not depend on their order, and undo registrations.** -/
theorem cancels_in_any_order (host : Host σ α) {y : System σ α} (hy : y.reactor.Reachable) :
    host.CancelsFreely y := by
  have hwf := hy.wellFormed
  have hsucceeds : ∀ {hs hs'}, hs.Nodup → (∀ h ∈ hs, y.reactor.isPending h = true) → hs'.Perm hs →
      (host.cancelEach y hs').1 = hs'.map (fun _ => .ok ()) ∧
        y.reactor.Sheds hs (host.cancelEach y hs').2.reactor := by
    intro hs hs' hnodup hpending hperm
    obtain ⟨hanswers, hsheds⟩ := sheds_of_cancelEach host hwf (hperm.nodup_iff.mpr hnodup)
      fun h hh => hpending h (hperm.mem_iff.mp hh)
    exact ⟨hanswers, hsheds.perm hperm⟩
  refine ⟨hsucceeds, ?_, ?_⟩
  · intro hs hs' hnodup hpending hperm
    have hsame := (hsucceeds hnodup hpending (List.Perm.refl hs)).2.holdsSame
      (hsucceeds hnodup hpending hperm).2
    exact ⟨hsame, hsame.looksLike⟩
  · intro request h hok
    obtain ⟨hcancel, hsame⟩ := cancel_register hwf hok
    exact ⟨hcancel, hsame, hsame.looksLike⟩

/-- To be notified when another descriptor can be written. -/
def toWrite : Request Unit := { Request.toRead with descriptor := .fd 4, interest := .write }

/-- Registers twice for reading and twice for writing, and runs one tick. -/
def readAndWrite : Program Unit Unit :=
  .register .toRead fun _ => .register .toRead fun _ => .register toWrite fun _ => .register toWrite fun _ =>
    .tick fun _ => .done

/-- The first of two callbacks runs. The second one is queued, and two notifications wait in a group. -/
def midway : System Unit Unit := ((Machine.start .unused readAndWrite).run .steady 6).system

/-- The group is left empty on the way, one withdrawal before that is of the queued notification. -/
theorem cancels_in_any_order_midway :
    midway.reactor.Reachable ∧ Host.steady.CancelsFreely midway ∧
      (∀ h ∈ [⟨3, 0⟩, ⟨1, 0⟩, ⟨2, 0⟩], midway.reactor.isPending h = true) ∧
      midway.reactor.ready = [⟨1, 0⟩] ∧
      midway.reactor.listing = [{ descriptor := .fd 4, pending := [⟨2, 0⟩, ⟨3, 0⟩] }] ∧
      (Host.steady.cancelEach midway [⟨3, 0⟩, ⟨1, 0⟩, ⟨2, 0⟩]).2.reactor.active = [] := by
  have hreachable : midway.reactor.Reachable := .run .steady (.initial (.empty _)) 6
  exact ⟨hreachable, cancels_in_any_order .steady hreachable, by decide +kernel, by rfl, by rfl, by rfl⟩

end Host

end EventLoop
