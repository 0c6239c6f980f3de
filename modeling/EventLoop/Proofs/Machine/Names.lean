import EventLoop.Proofs.Machine.History
import EventLoop.Proofs.Machine.Script

/-!
# Names of handles

A script, be it the first program or a callback, calls the handles by the number of registrations before
theirs. What stands beside its surroundings are the handles that were given out, in that order: each is noted
in the step after the one that gave it out, and nothing else can come in between.

* `Machine.handles` — the handles given out in a number of steps.
* `nodup_handles` — no handle is given out twice.
* `Program.Remembers` — programs that note the handles that they are given, and nothing else.
* `step_remembers` — what one step notes.
* `inOrder` — the names of scripts are the handles, in the order of the registrations.
-/

namespace EventLoop

variable {σ α : Type}

namespace Machine

/-! ## The handles of a run -/

/-- The handles given out in a number of steps, in order. -/
def handles (host : Host σ α) (m : Machine σ α) (n : Nat) : List Handle :=
  (List.range n).filterMap (m.givenAt host)

theorem handles_succ (host : Host σ α) (m : Machine σ α) (n : Nat) :
    m.handles host (n + 1) = m.handles host n ++ (m.givenAt host n).toList := by
  unfold handles
  rw [List.range_succ, List.filterMap_append]
  cases hn : m.givenAt host n <;> simp [hn]

/-- **No handle is given out twice**, as long as the word does not come round. -/
theorem nodup_handles {host : Host σ α} {m : Machine σ α} (hm : m.system.reactor.Initial) {n : Nat}
    (hfew : ∀ i, m.releases host i n < 2 ^ 64) : (m.handles host n).Nodup := by
  unfold handles
  refine List.Pairwise.filterMap _ (R := fun j k => j < n ∧ k < n ∧ j ≠ k) ?_ ?_
  · rintro j k ⟨hj, hk, hjk⟩ h hgj h' hgk rfl
    obtain ⟨request, due, ho⟩ := Occurrence.bind_given?_eq_some.mp hgj
    obtain ⟨request', due', ho'⟩ := Occurrence.bind_given?_eq_some.mp hgk
    exact hjk (eq_of_registered hm (hfew h.index) hj hk ho ho')
  · refine List.Pairwise.imp_of_mem ?_ (List.nodup_range (n := n))
    intro j k hj hk hjk
    exact ⟨List.mem_range.mp hj, List.mem_range.mp hk, hjk⟩

/-- Only a registration gives out a handle. -/
theorem given_eq_none {host : Host σ α} {m : Machine σ α}
    (hc : ∀ request next, m.control ≠ .program (.register request next)) :
    (m.occurrence host).bind Occurrence.given? = none := by
  rw [Option.eq_none_iff_forall_ne_some]
  intro h hsome
  obtain ⟨request, due, ho⟩ := Occurrence.bind_given?_eq_some.mp hsome
  obtain ⟨next, hreg, -⟩ := exists_register_of_occurrence ho
  exact hc request next hreg

end Machine

/-- A registration gives out the handle that it answers with. -/
theorem Host.given_registration (host : Host σ α) (y : System σ α) (request : Request α) :
    (host.registration y request).bind Occurrence.given? = (host.register y request).1.toOption := by
  unfold registration register
  rcases host.dueTime y request.timeout with ⟨e | due, z⟩
  · rfl
  · dsimp only
    rcases z.reactor.arm (host.memory z.outside) request due with ⟨e | h, r⟩
    · rfl
    · rfl

/-! ## Programs that note their handles -/

/-- Programs that note each handle they are given, before they do anything else, and nothing else. -/
inductive Program.Remembers : Program (σ × List Handle) α → Prop where
  | done : Remembers .done
  | outside {act : σ × List Handle → σ × List Handle}
      {next : σ × List Handle → Program (σ × List Handle) α} (keeps : ∀ s, (act s).2 = s.2)
      (goes : ∀ s, Remembers (next s)) : Remembers (.outside act next)
  | register {request : Request α} {next : Except ReactorError Nat → Program (σ × List Handle) α}
      (goes : ∀ answer, Remembers (next answer)) : Remembers (.register request (.remembering next))
  | cancel {h : Handle} {next : Except ReactorError Unit → Program (σ × List Handle) α}
      (goes : ∀ answer, Remembers (next answer)) : Remembers (.cancel h next)
  | isPending {h : Handle} {next : Bool → Program (σ × List Handle) α}
      (goes : ∀ answer, Remembers (next answer)) : Remembers (.isPending h next)
  | lookup {d : Descriptor} {callback : Callback} {next : Option Handle → Program (σ × List Handle) α}
      (goes : ∀ answer, Remembers (next answer)) : Remembers (.lookup d callback next)
  | status {next : Reactor.Status → Program (σ × List Handle) α}
      (goes : ∀ s, Remembers (next s)) : Remembers (.status next)
  | tick {next : Except ReactorError Nat → Program (σ × List Handle) α}
      (goes : ∀ answer, Remembers (next answer)) : Remembers (.tick next)
  | drive {maxTicks : Option UInt64} {next : Except ReactorError Nat → Program (σ × List Handle) α}
      (goes : ∀ answer, Remembers (next answer)) : Remembers (.drive maxTicks next)

namespace Program.Remembers

theorem resolving {known : Handle → Program (σ × List Handle) α}
    {unknown : Program (σ × List Handle) α} (name : Nat) (hknown : ∀ h, (known h).Remembers)
    (hunknown : unknown.Remembers) : (Program.resolving name known unknown).Remembers := by
  refine .outside (fun _ => rfl) fun s => ?_
  split
  · exact hknown _
  · exact hunknown

theorem naming {next : Option Nat → Program (σ × List Handle) α}
    (goes : ∀ answer, (next answer).Remembers) : ∀ answer, (Program.naming next answer).Remembers
  | none => goes none
  | some _ => .outside (fun _ => rfl) fun _ => goes _

end Program.Remembers

/-- **A script notes its handles.** -/
theorem Script.remembers (q : Script σ α) : q.program.Remembers := by
  induction q with
  | done => exact .done
  | outside act next ih => exact .outside (fun _ => rfl) fun s => ih s.1
  | register request next ih => exact .register ih
  | cancel name next ih => exact .resolving name (fun _ => .cancel ih) (ih _)
  | isPending name next ih => exact .resolving name (fun _ => .isPending ih) (ih _)
  | lookup d callback next ih => exact .lookup (.naming ih)
  | status next ih => exact .status fun s => ih s.standing
  | tick next ih => exact .tick ih
  | drive maxTicks next ih => exact .drive ih

/-- What is suspended notes its handles. -/
def Frame.Remembers : Frame (σ × List Handle) α → Prop
  | .caller next => ∀ answer, (next answer).Remembers
  | .drain _ => True
  | .driver _ _ => True

/-- What goes on notes its handles, and first of all the one that was given out just now, if any. -/
inductive Control.Remembers : Option Handle → Control (σ × List Handle) α → Prop where
  | program {p : Program (σ × List Handle) α} (hp : p.Remembers) : Remembers none (.program p)
  | given {h : Handle} {next : Except ReactorError Nat → Program (σ × List Handle) α}
      (goes : ∀ answer, (next answer).Remembers) :
      Remembers (some h) (.program (.remembering next (.ok h)))
  | drain (served : Nat) : Remembers none (.drain served)
  | driver (ticks : Nat) (maxTicks : Option UInt64) : Remembers none (.driver ticks maxTicks)
  | answer (result : Except ReactorError Nat) : Remembers none (.answer result)

/-! ## Surroundings with names beside -/

namespace Host

variable (host : Host σ α) (callback : Callback → Event α → Script σ α) (y : System (σ × List Handle) α)

theorem names_register (request : Request α) :
    ((host.scripted callback).register y request).2.outside.2 = y.outside.2 := by
  have h := register_beside host { reactor := y.reactor, outside := y.outside.1 }
    (fun names _ => names) (fun c e => (callback c e).program) y.outside.2 request
  exact (congrArg (fun x => x.2.outside.2) h).trans (List.foldl_fixed _)

theorem names_cancel (h : Handle) :
    ((host.scripted callback).cancel y h).2.outside.2 = y.outside.2 :=
  congrArg (fun x => x.2.outside.2) (cancel_beside host { reactor := y.reactor, outside := y.outside.1 }
    (fun names _ => names) (fun c e => (callback c e).program) y.outside.2 h)

theorem names_select : ((host.scripted callback).select y).2.outside.2 = y.outside.2 := by
  have h := select_beside host { reactor := y.reactor, outside := y.outside.1 }
    (fun names _ => names) (fun c e => (callback c e).program) y.outside.2
  exact (congrArg (fun x => x.2.outside.2) h).trans (List.foldl_fixed _)

end Host

/-! ## Steps -/

namespace Machine

/-- A machine notes its handles. These were noted, and this one is to be noted next. -/
structure Remembers (names : List Handle) (new : Option Handle) (m : Machine (σ × List Handle) α) :
    Prop where
  names : m.system.outside.2 = names
  control : m.control.Remembers new
  frames : ∀ f ∈ m.frames, f.Remembers

variable {host : Host σ α} {callback : Callback → Event α → Script σ α} {names : List Handle}
  {new : Option Handle} {y : System (σ × List Handle) α} {frames : List (Frame (σ × List Handle) α)}
  {m m' : Machine (σ × List Handle) α}

theorem beginTick_remembers (hnames : y.outside.2 = names) (hf : ∀ f ∈ frames, f.Remembers) :
    (beginTick (host.scripted callback) y frames).Remembers names none := by
  rw [beginTick_eq]
  refine ⟨(host.names_select callback y).trans hnames, ?_, hf⟩
  dsimp only
  split
  · exact .drain _
  · exact .answer _

theorem stepDrain_remembers (served : Nat) (hnames : y.outside.2 = names)
    (hf : ∀ f ∈ frames, f.Remembers) :
    (stepDrain (host.scripted callback) y served frames).Remembers names none := by
  unfold stepDrain
  split
  · exact ⟨hnames, .answer _, hf⟩
  · exact ⟨hnames, .drain _, hf⟩
  · exact ⟨hnames, .program (callback _ _).remembers, List.forall_mem_cons.mpr ⟨trivial, hf⟩⟩

theorem stepDriver_remembers (ticks : Nat) (maxTicks : Option UInt64) (hnames : y.outside.2 = names)
    (hf : ∀ f ∈ frames, f.Remembers) :
    (stepDriver (host.scripted callback) y ticks maxTicks frames).Remembers names none := by
  unfold stepDriver
  split
  · exact ⟨hnames, .answer _, hf⟩
  · split
    · exact ⟨hnames, .answer _, hf⟩
    · exact beginTick_remembers hnames (List.forall_mem_cons.mpr ⟨trivial, hf⟩)

theorem afterTick_remembers (ticks : Nat) (maxTicks : Option UInt64)
    (result : Except ReactorError Nat) (hnames : y.outside.2 = names) (hf : ∀ f ∈ frames, f.Remembers) :
    (afterTick (host.scripted callback) y ticks maxTicks result frames).Remembers names none := by
  unfold afterTick
  split
  · exact ⟨hnames, .driver _ _, hf⟩
  · exact ⟨hnames, .driver _ _, hf⟩
  · exact ⟨hnames, .answer _, hf⟩

/-- A program that does not register gets no handle to note. -/
theorem stepProgram_remembers {p : Program (σ × List Handle) α} (hp : p.Remembers)
    (hnot : ∀ request next, p ≠ .register request next) (hnames : y.outside.2 = names)
    (hf : ∀ f ∈ frames, f.Remembers)
    (hs : stepProgram (host.scripted callback) y frames p = some m') : m'.Remembers names none := by
  cases hp with
  | done =>
    dsimp only [stepProgram] at hs
    split at hs
    · cases hs
      exact ⟨hnames, .drain _, (List.forall_mem_cons.mp hf).2⟩
    · cases hs
  | outside keeps goes =>
    cases hs
    exact ⟨(keeps _).trans hnames, .program (goes _), hf⟩
  | register goes => exact absurd rfl (hnot _ _)
  | @cancel h next goes =>
    have hkept := (host.names_cancel callback y h).trans hnames
    dsimp only [stepProgram] at hs
    generalize (host.scripted callback).cancel y h = cancelled at hs hkept
    cases hs
    exact ⟨hkept, .program (goes _), hf⟩
  | isPending goes => cases hs; exact ⟨hnames, .program (goes _), hf⟩
  | lookup goes => cases hs; exact ⟨hnames, .program (goes _), hf⟩
  | status goes => cases hs; exact ⟨hnames, .program (goes _), hf⟩
  | tick goes =>
    cases hs
    exact beginTick_remembers hnames (List.forall_mem_cons.mpr ⟨goes, hf⟩)
  | drive goes =>
    cases hs
    exact ⟨hnames, .driver _ _, List.forall_mem_cons.mpr ⟨goes, hf⟩⟩

/-- **A step notes the handle that the step before gave out**, and nothing else. -/
theorem step_remembers (hm : m.Remembers names new) (hs : m.step (host.scripted callback) = some m') :
    m'.Remembers (names ++ new.toList)
      ((m.occurrence (host.scripted callback)).bind Occurrence.given?) := by
  obtain ⟨hnames, hcontrol, hf⟩ := hm
  by_cases hreg : ∃ request next, m.control = .program (.register request next)
  · obtain ⟨request, next, hc⟩ := hreg
    unfold step at hs
    unfold occurrence
    rw [hc] at hcontrol hs ⊢
    cases hcontrol with
    | program hp =>
      cases hp with
      | register goes =>
        have hkept := (host.names_register callback m.system request).trans hnames
        dsimp only [stepProgram] at hs ⊢
        rw [Host.given_registration, Option.toList_none, List.append_nil]
        generalize (host.scripted callback).register m.system request = registered at hs hkept ⊢
        obtain ⟨e | h, z⟩ := registered
        · cases hs
          exact ⟨hkept, .program (goes _), hf⟩
        · cases hs
          exact ⟨hkept, .given goes, hf⟩
  · have hnot : ∀ request next, m.control ≠ .program (.register request next) :=
      fun request next hc => hreg ⟨request, next, hc⟩
    have hkept : m.system.outside.2 = names ++ (none : Option Handle).toList :=
      hnames.trans (List.append_nil names).symm
    rw [given_eq_none hnot]
    unfold step at hs
    generalize m.control = c at hcontrol hs hnot
    cases hcontrol with
    | given goes =>
      -- the program notes the handle before it goes on
      cases hs
      exact ⟨congrArg (· ++ [_]) hnames, .program (goes _), hf⟩
    | program hp =>
      exact stepProgram_remembers hp (fun request next he => hnot request next (he ▸ rfl)) hkept hf hs
    | drain served =>
      cases hs
      exact stepDrain_remembers served hkept hf
    | driver ticks maxTicks =>
      cases hs
      exact stepDriver_remembers ticks maxTicks hkept hf
    | answer result =>
      dsimp only at hs
      split at hs
      · next next rest hframes =>
        cases hs
        rw [hframes] at hf
        obtain ⟨goes, hrest⟩ := List.forall_mem_cons.mp hf
        exact ⟨hkept, .program (goes _), hrest⟩
      · next ticks maxTicks rest hframes =>
        cases hs
        rw [hframes] at hf
        exact afterTick_remembers ticks maxTicks result hkept (List.forall_mem_cons.mp hf).2
      · cases hs

/-- A machine that has come to its end has nothing left to note. -/
theorem Remembers.new_eq_none (hm : m.Remembers names new)
    (hs : m.step (host.scripted callback) = none) : new = none := by
  have hcontrol := hm.control
  unfold step at hs
  generalize m.control = c at hcontrol hs
  cases hcontrol with
  | given goes => cases hs
  | _ => rfl

/-- At its end a machine stays, and has nothing to note. -/
theorem next_remembers (hm : m.Remembers names new) :
    ((m.step (host.scripted callback)).getD m).Remembers (names ++ new.toList)
      ((m.occurrence (host.scripted callback)).bind Occurrence.given?) := by
  cases hs : m.step (host.scripted callback) with
  | none =>
    obtain rfl := hm.new_eq_none hs
    rw [occurrence_of_step_eq_none hs, Option.toList_none, List.append_nil]
    exact hm
  | some m' => exact step_remembers hm hs

/-! ## Runs -/

/-- The induction is on the number of steps. A handle is noted in the step after the one that gave it out. -/
theorem run_remembers (hm : m.Remembers [] none) (n : Nat) :
    (m.run (host.scripted callback) (n + 1)).Remembers (m.handles (host.scripted callback) n)
      (m.givenAt (host.scripted callback) n) := by
  induction n with
  | zero =>
    rw [run_succ]
    exact next_remembers hm
  | succ n ih =>
    rw [run_succ, handles_succ]
    exact next_remembers ih

/-- **Scripts call the handles by the number of registrations before theirs.** -/
theorem names_eq_handles (host : Host σ α) (callback : Callback → Event α → Script σ α)
    (y : System σ α) (q : Script σ α) (n : Nat) :
    ((start (y.beside []) q.program).run (host.scripted callback) n).system.outside.2 =
      (start (y.beside []) q.program).handles (host.scripted callback) (n - 1) := by
  cases n with
  | zero => rfl
  | succ n => exact (run_remembers ⟨rfl, .program q.remembers, List.forall_mem_nil _⟩ n).names

end Machine

end EventLoop
