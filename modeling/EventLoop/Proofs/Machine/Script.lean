import EventLoop.Proofs.Machine.Transcript
import EventLoop.Proofs.Reactor.Twins

/-!
# Programs that call handles by name

A script is a program that never sees a handle: the first handle that is given out is called 0, the next 1,
and so on, whoever registers. Beside its surroundings there is a list of the handles given out so far, from
which a script becomes a program (`Script.program`). It does not see either what the pools hold in spare.

So a script does the same on two reactors that give out different handles. What that means for programs,
whose continuations are functions of the answers, is said by relations that follow the pairs of handles
given out so far.

* `Program.Alike` — the programs do the same as long as they get the same answers.
* `Script.alike` — what a script becomes does the same in both.
* `Host.Respects` — surroundings in which handles make no difference.
* `Host.respects_scripted` — those in which the callbacks are scripts.
-/

namespace EventLoop

variable {σ α : Type}

/-! ## Scripts -/

namespace Reactor

/-- What can be seen of a reactor that does not depend on what the pools hold in spare. -/
structure Standing where
  activeGroups : Nat
  pending : Nat
  ready : Nat
  floor : Span
  counters : Counters
  deriving DecidableEq

/-- A status without what the pools hold in spare. -/
def Status.standing (s : Status) : Standing :=
  { activeGroups := s.activeGroups
    pending := s.pending
    ready := s.ready
    floor := s.floor
    counters := s.counters }

end Reactor

/-- Code that uses a reactor and calls handles by the number of registrations before theirs. -/
inductive Script (σ α : Type) : Type where
  | done
  | outside (act : σ → σ) (next : σ → Script σ α)
  | register (request : Request α) (next : Except ReactorError Nat → Script σ α)
  | cancel (name : Nat) (next : Except ReactorError Unit → Script σ α)
  | isPending (name : Nat) (next : Bool → Script σ α)
  | lookup (d : Descriptor) (callback : Callback) (next : Option Nat → Script σ α)
  | status (next : Reactor.Standing → Script σ α)
  | tick (next : Except ReactorError Nat → Script σ α)
  | drive (maxTicks : Option UInt64) (next : Except ReactorError Nat → Script σ α)

namespace Program

/-- Goes on with the name of a handle that was given out just now, which is noted last. -/
def remembering (next : Except ReactorError Nat → Program (σ × List Handle) α) :
    Except ReactorError Handle → Program (σ × List Handle) α
  | .ok h => .outside (fun s => (s.1, s.2 ++ [h])) fun s => next (.ok (s.2.length - 1))
  | .error e => next (.error e)

/-- Goes on with the handle that was given a name, if there is one. -/
def resolving (name : Nat) (known : Handle → Program (σ × List Handle) α)
    (unknown : Program (σ × List Handle) α) : Program (σ × List Handle) α :=
  .outside id fun s =>
    match s.2[name]? with
    | some h => known h
    | none => unknown

/-- Goes on with the name of a handle that was noted before. -/
def naming (next : Option Nat → Program (σ × List Handle) α) :
    Option Handle → Program (σ × List Handle) α
  | some h => .outside id fun s => next (some (s.2.idxOf h))
  | none => next none

end Program

/-- The program that a script stands for. It notes every handle that it is given, and finds the handle of a
name among those noted; a name that was not given yet is stale. -/
def Script.program : Script σ α → Program (σ × List Handle) α
  | done => .done
  | outside act next => .outside (fun s => (act s.1, s.2)) fun s => (next s.1).program
  | register request next => .register request (.remembering fun answer => (next answer).program)
  | cancel name next =>
    .resolving name (fun h => .cancel h fun answer => (next answer).program)
      (next (.error .stale)).program
  | isPending name next =>
    .resolving name (fun h => .isPending h fun answer => (next answer).program) (next false).program
  | lookup d callback next => .lookup d callback (.naming fun answer => (next answer).program)
  | status next => .status fun s => (next s.standing).program
  | tick next => .tick fun answer => (next answer).program
  | drive maxTicks next => .drive maxTicks fun answer => (next answer).program

/-- The surroundings with the handles given out so far beside, in which the callbacks are scripts. -/
def Host.scripted (host : Host σ α) (callback : Callback → Event α → Script σ α) :
    Host (σ × List Handle) α :=
  host.beside (fun names _ => names) fun c e => (callback c e).program

/-! ## The same under other handles -/

/-- The surroundings are the same, with names for handles that stand for each other. -/
structure Named (ν : List (Handle × Handle)) (s s' : σ × List Handle) : Prop where
  same : s.1 = s'.1
  names : List.Forall₂ (Paired ν) s.2 s'.2
  oneToOne : OneToOne ν

/-- Programs that do the same as long as they get the same answers, up to handles that stand for each
other. While a registration or a tick goes on, other handles may come to stand for each other. -/
inductive Program.Alike : List (Handle × Handle) → Program (σ × List Handle) α →
    Program (σ × List Handle) α → Prop where
  | done (ν : List (Handle × Handle)) : Alike ν .done .done
  | outside {ν : List (Handle × Handle)} {act act' : σ × List Handle → σ × List Handle}
      {next next' : σ × List Handle → Program (σ × List Handle) α}
      (acts : ∀ s s', Named ν s s' → Named ν (act s) (act' s'))
      (goes : ∀ s s', Named ν s s' → Alike ν (next s) (next' s')) :
      Alike ν (.outside act next) (.outside act' next')
  | register {ν : List (Handle × Handle)} {request : Request α}
      {next next' : Except ReactorError Handle → Program (σ × List Handle) α}
      (failed : ∀ e, Alike ν (next (.error e)) (next' (.error e)))
      (accepted : ∀ ν' h h', Paired ν' h h' → Alike ν' (next (.ok h)) (next' (.ok h'))) :
      Alike ν (.register request next) (.register request next')
  | cancel {ν : List (Handle × Handle)} {h h' : Handle}
      {next next' : Except ReactorError Unit → Program (σ × List Handle) α} (hp : Paired ν h h')
      (goes : ∀ answer, Alike ν (next answer) (next' answer)) :
      Alike ν (.cancel h next) (.cancel h' next')
  | isPending {ν : List (Handle × Handle)} {h h' : Handle}
      {next next' : Bool → Program (σ × List Handle) α} (hp : Paired ν h h')
      (goes : ∀ answer, Alike ν (next answer) (next' answer)) :
      Alike ν (.isPending h next) (.isPending h' next')
  | lookup {ν : List (Handle × Handle)} {d : Descriptor} {callback : Callback}
      {next next' : Option Handle → Program (σ × List Handle) α}
      (missing : Alike ν (next none) (next' none))
      (found : ∀ h h', Paired ν h h' → Alike ν (next (some h)) (next' (some h'))) :
      Alike ν (.lookup d callback next) (.lookup d callback next')
  | status {ν : List (Handle × Handle)} {next next' : Reactor.Status → Program (σ × List Handle) α}
      (goes : ∀ s s', s.standing = s'.standing → Alike ν (next s) (next' s')) :
      Alike ν (.status next) (.status next')
  | tick {ν : List (Handle × Handle)}
      {next next' : Except ReactorError Nat → Program (σ × List Handle) α}
      (goes : ∀ ν' answer, Alike ν' (next answer) (next' answer)) : Alike ν (.tick next) (.tick next')
  | drive {ν : List (Handle × Handle)} {maxTicks : Option UInt64}
      {next next' : Except ReactorError Nat → Program (σ × List Handle) α}
      (goes : ∀ ν' answer, Alike ν' (next answer) (next' answer)) :
      Alike ν (.drive maxTicks next) (.drive maxTicks next')

namespace Named

variable {ν : List (Handle × Handle)} {s s' : σ × List Handle}

/-- The surroundings act alike, and the names stay. -/
theorem map (hs : Named ν s s') {t t' : σ} (ht : t = t') : Named ν (t, s.2) (t', s'.2) :=
  ⟨ht, hs.names, hs.oneToOne⟩

/-- Handles that stand for each other still do when others come to. -/
theorem append (hs : Named ν s s') {μ : List (Handle × Handle)} (hμ : OneToOne (ν ++ μ)) :
    Named (ν ++ μ) s s' :=
  ⟨hs.same, hs.names.imp fun _ _ hp => hp.append μ, hμ⟩

/-- A name is given to both, or to none. -/
theorem getElem?_cases (hs : Named ν s s') (name : Nat) :
    (s.2[name]? = none ∧ s'.2[name]? = none) ∨
      ∃ h h', s.2[name]? = some h ∧ s'.2[name]? = some h' ∧ Paired ν h h' := by
  have hlength := hs.names.length_eq
  by_cases hlt : name < s.2.length
  · have hlt' : name < s'.2.length := hlength ▸ hlt
    exact Or.inr ⟨_, _, List.getElem?_eq_getElem hlt, List.getElem?_eq_getElem hlt',
      hs.names.get hlt hlt'⟩
  · exact Or.inl ⟨List.getElem?_eq_none (by omega), List.getElem?_eq_none (by omega)⟩

/-- Handles that stand for each other have the same name. -/
theorem idxOf_eq (hs : Named ν s s') {h h' : Handle} (hp : Paired ν h h') :
    s.2.idxOf h = s'.2.idxOf h' := by
  have hnames := hs.names
  generalize s.2 = l, s'.2 = l' at hnames
  induction hnames with
  | nil => rfl
  | @cons k k' l l' hk _ ih =>
    have hiff := hs.oneToOne k k' h h' hk hp
    by_cases hkh : k = h
    · rw [List.idxOf_cons_eq _ hkh, List.idxOf_cons_eq _ (hiff.mp hkh)]
    · rw [List.idxOf_cons_ne _ hkh, List.idxOf_cons_ne _ (mt hiff.mpr hkh), ih]

end Named

namespace Program.Alike

variable {ν : List (Handle × Handle)}

theorem resolving {known known' : Handle → Program (σ × List Handle) α}
    {unknown unknown' : Program (σ × List Handle) α} (name : Nat)
    (hknown : ∀ h h', Paired ν h h' → Program.Alike ν (known h) (known' h'))
    (hunknown : Program.Alike ν unknown unknown') :
    Program.Alike ν (.resolving name known unknown) (.resolving name known' unknown') := by
  refine .outside (fun s s' hs => hs) fun s s' hs => ?_
  rcases hs.getElem?_cases name with ⟨hn, hn'⟩ | ⟨h, h', hn, hn', hp⟩
  · rw [hn, hn']
    exact hunknown
  · rw [hn, hn']
    exact hknown h h' hp

end Program.Alike

/-- **A script does the same under other handles.** -/
theorem Script.alike (q : Script σ α) (ν : List (Handle × Handle)) :
    Program.Alike ν q.program q.program := by
  induction q generalizing ν with
  | done => exact .done ν
  | outside act next ih =>
    refine .outside (fun s s' hs => hs.map (congrArg act hs.same)) fun s s' hs => ?_
    rw [hs.same]
    exact ih s'.1 ν
  | register request next ih =>
    refine .register (fun e => ih (.error e) ν) fun ν' h h' hp => ?_
    refine .outside (fun s s' hs => ?_) fun s s' hs => ?_
    · exact ⟨hs.same, List.rel_append hs.names (.cons hp .nil), hs.oneToOne⟩
    · rw [hs.names.length_eq]
      exact ih _ ν'
  | cancel name next ih =>
    exact .resolving name (fun h h' hp => .cancel hp fun answer => ih answer ν) (ih _ ν)
  | isPending name next ih =>
    exact .resolving name (fun h h' hp => .isPending hp fun answer => ih answer ν) (ih _ ν)
  | lookup d callback next ih =>
    refine .lookup (ih none ν) fun h h' hp => ?_
    refine .outside (fun s s' hs => hs) fun s s' hs => ?_
    rw [hs.idxOf_eq hp]
    exact ih _ ν
  | status next ih =>
    refine .status fun s s' hs => ?_
    rw [hs]
    exact ih _ ν
  | tick next ih => exact .tick fun ν' answer => ih answer ν'
  | drive maxTicks next ih => exact .drive fun ν' answer => ih answer ν'

/-- What is suspended goes on alike. -/
inductive Frame.Alike : Frame (σ × List Handle) α → Frame (σ × List Handle) α → Prop where
  | caller {next next' : Except ReactorError Nat → Program (σ × List Handle) α}
      (goes : ∀ ν answer, Program.Alike ν (next answer) (next' answer)) :
      Alike (.caller next) (.caller next')
  | drain (served : Nat) : Alike (.drain served) (.drain served)
  | driver (ticks : Nat) (maxTicks : Option UInt64) :
      Alike (.driver ticks maxTicks) (.driver ticks maxTicks)

/-- What happens next happens alike. -/
inductive Control.Alike (ν : List (Handle × Handle)) :
    Control (σ × List Handle) α → Control (σ × List Handle) α → Prop where
  | program {p p' : Program (σ × List Handle) α} (hp : Program.Alike ν p p') :
      Alike ν (.program p) (.program p')
  | drain (served : Nat) : Alike ν (.drain served) (.drain served)
  | driver (ticks : Nat) (maxTicks : Option UInt64) :
      Alike ν (.driver ticks maxTicks) (.driver ticks maxTicks)
  | answer (result : Except ReactorError Nat) : Alike ν (.answer result) (.answer result)

/-! ## Surroundings in which handles make no difference -/

/-- Which handle is withdrawn makes no difference to the surroundings. Every other notice is the same
whatever the handles. -/
def Host.HandleBlind (host : Host σ α) : Prop :=
  ∀ h h' s, host.notify (Reactor.cancelledNotice h) s = host.notify (Reactor.cancelledNotice h') s

/-- In surroundings that are the same under other handles, everything goes on alike. -/
structure Host.Respects (host : Host (σ × List Handle) α) : Prop where
  memory : ∀ {ν s s'}, Named ν s s' → host.memory s = host.memory s'
  clock : ∀ {ν s s'}, Named ν s s' → (host.now s).1 = (host.now s').1
  now : ∀ {ν s s'}, Named ν s s' → Named ν (host.now s).2 (host.now s').2
  reported : ∀ {ν s s'} (entries : List PollEntry) (bound : Option Span), Named ν s s' →
    (host.wait entries bound s).1 = (host.wait entries bound s').1
  wait : ∀ {ν s s'} (entries : List PollEntry) (bound : Option Span), Named ν s s' →
    Named ν (host.wait entries bound s).2 (host.wait entries bound s').2
  notify : ∀ {ν s s'} (n : Notice), Named ν s s' → Named ν (host.notify n s) (host.notify n s')
  cancelled : ∀ {ν s s'} (h h' : Handle), Named ν s s' →
    Named ν (host.notify (Reactor.cancelledNotice h) s) (host.notify (Reactor.cancelledNotice h') s')
  stopped : ∀ {ν s s'}, Named ν s s' → host.stopped s = host.stopped s'
  callback : ∀ ν c e, Program.Alike ν (host.callback c e) (host.callback c e)

theorem Host.respects_scripted {host : Host σ α} (hb : host.HandleBlind)
    (callback : Callback → Event α → Script σ α) : (host.scripted callback).Respects where
  memory hs := congrArg host.memory hs.same
  clock hs := congrArg (fun t => (host.now t).1) hs.same
  now hs := hs.map (congrArg (fun t => (host.now t).2) hs.same)
  reported entries bound hs := congrArg (fun t => (host.wait entries bound t).1) hs.same
  wait entries bound hs := hs.map (congrArg (fun t => (host.wait entries bound t).2) hs.same)
  notify n hs := hs.map (congrArg (host.notify n) hs.same)
  cancelled h h' hs := hs.map ((hb h h' _).trans (congrArg (host.notify _) hs.same))
  stopped hs := congrArg host.stopped hs.same
  callback ν c e := (callback c e).alike ν

end EventLoop
