import EventLoop.Proofs.Machine.Account
import EventLoop.Proofs.Machine.Names
import EventLoop.Proofs.Reactor.Capacity

/-!
# Two machines in lockstep

Twin reactors in the same surroundings, on which the same is about to happen, take the same step. What they
ask, what happens to them and what they answer is the same, up to handles that stand for each other; and
they are twins afterwards, with the handles that came into use as one more pair.

* `Host.Respects.readClock_agree`, `Host.Respects.select_alike`, … — the operations of twins.
* `Machine.exchanges_eq`, `Machine.occurrence_like`, `Machine.answer_agrees` — what a step has in common.
* `Machine.step_rel`, `Machine.step_twins` — where it leads, unless a registration is refused memory.
-/

namespace EventLoop

variable {σ α : Type}

/-! ## Systems -/

/-- Twins in the same surroundings. -/
structure System.Alike (ν : List (Handle × Handle)) (y y' : System (σ × List Handle) α) : Prop where
  outside : Named ν y.outside y'.outside
  reactor : Reactor.Twins ν y.reactor y'.reactor

/-- An operation gives twins the same answer and leaves twins behind. -/
inductive System.Agree {β : Type} (ν : List (Handle × Handle)) :
    β × System (σ × List Handle) α → β × System (σ × List Handle) α → Prop where
  | intro (answer : β) {y y' : System (σ × List Handle) α} (alike : System.Alike ν y y') :
      Agree ν (answer, y) (answer, y')

namespace Reactor

theorem Twins.pollSetNotice_eq {ν : List (Handle × Handle)} {r r' : Reactor α} (t : Twins ν r r') :
    pollSetNotice r = pollSetNotice r' := by
  unfold pollSetNotice
  rw [t.active_length, t.pollSet_eq, t.earliest_eq]

end Reactor

namespace Host.Respects

variable {host : Host (σ × List Handle) α} {ν : List (Handle × Handle)}
  {y y' : System (σ × List Handle) α}

theorem report (hh : host.Respects) (n : Notice) (ha : System.Alike ν y y') :
    System.Alike ν (host.report n y) (host.report n y') :=
  ⟨hh.notify n ha.outside, ha.reactor⟩

/-! ## What an operation asks -/

theorem clockExchange_eq (hh : host.Respects) (ha : System.Alike ν y y') :
    host.clockExchange y = host.clockExchange y' :=
  congrArg Exchange.clock (hh.clock ha.outside)

theorem dueExchanges_eq (hh : host.Respects) (ha : System.Alike ν y y') (timeout : Timeout) :
    host.dueExchanges y timeout = host.dueExchanges y' timeout := by
  cases timeout with
  | infinite => rfl
  | after delay => exact congrArg (fun x => [x]) (hh.clockExchange_eq ha)

theorem leftExchanges_eq (hh : host.Respects) (ha : System.Alike ν y y') (due : Option Instant) :
    host.leftExchanges y due = host.leftExchanges y' due := by
  cases due with
  | none => rfl
  | some due => exact congrArg (fun x => [x]) (hh.clockExchange_eq ha)

theorem waitExchange_eq (hh : host.Respects) (ha : System.Alike ν y y') (entries : List PollEntry)
    (bound : Option Span) : host.waitExchange y entries bound = host.waitExchange y' entries bound :=
  congrArg (Exchange.wait entries bound) (hh.reported entries bound (hh.notify _ ha.outside))

/-! ## The operations -/

theorem readClock_agree (hh : host.Respects) (ha : System.Alike ν y y') :
    System.Agree ν (host.readClock y) (host.readClock y') := by
  have hclock := hh.clock ha.outside
  have hnow := hh.now ha.outside
  unfold readClock
  generalize host.now y.outside = read, host.now y'.outside = read' at hclock hnow
  obtain ⟨answer, s⟩ := read
  obtain ⟨answer', s'⟩ := read'
  obtain rfl : answer = answer' := hclock
  cases answer with
  | ok t => exact .intro _ ⟨hnow, ha.reactor⟩
  | error fault => exact .intro _ (hh.report _ ⟨hnow, ha.reactor.recount _ _⟩)

theorem dueTime_agree (hh : host.Respects) (ha : System.Alike ν y y') (timeout : Timeout) :
    System.Agree ν (host.dueTime y timeout) (host.dueTime y' timeout) := by
  unfold dueTime
  cases timeout with
  | infinite => exact .intro _ ha
  | after delay =>
    have hread := hh.readClock_agree ha
    generalize host.readClock y = read, host.readClock y' = read' at hread
    cases hread with
    | intro answer hz =>
      cases answer with
      | ok t => exact .intro _ hz
      | error e => exact .intro _ hz

theorem remaining_agree (hh : host.Respects) (ha : System.Alike ν y y') (due : Option Instant) :
    System.Agree ν (host.remaining y due) (host.remaining y' due) := by
  unfold remaining
  cases due with
  | none => exact .intro _ ha
  | some due =>
    have hread := hh.readClock_agree ha
    generalize host.readClock y = read, host.readClock y' = read' at hread
    cases hread with
    | intro answer hz =>
      cases answer with
      | ok t => exact .intro _ hz
      | error e => exact .intro _ hz

theorem await_agree (hh : host.Respects) (ha : System.Alike ν y y') (entries : List PollEntry)
    (bound : Option Span) :
    System.Agree ν (host.await y entries bound) (host.await y' entries bound) := by
  have hnotified := hh.notify (Reactor.waitingNotice entries bound) ha.outside
  have hreported := hh.reported entries bound hnotified
  have hwait := hh.wait entries bound hnotified
  unfold await
  dsimp only
  generalize host.wait entries bound (host.notify _ y.outside) = waited,
    host.wait entries bound (host.notify _ y'.outside) = waited' at hreported hwait
  obtain ⟨answer, s⟩ := waited
  obtain ⟨answer', s'⟩ := waited'
  obtain rfl : answer = answer' := hreported
  cases answer with
  | ok reported => exact .intro _ ⟨hwait, ha.reactor.recount _ _⟩
  | error fault => exact .intro _ (hh.report _ ⟨hwait, ha.reactor.recount _ _⟩)

theorem hasRoom_eq (hh : host.Respects) (ha : System.Alike ν y y') : host.hasRoom y = host.hasRoom y' := by
  unfold hasRoom
  rw [hh.memory ha.outside, ha.reactor.active_length, ha.reactor.pending_eq]

/-- **The first part of a tick asks the same for twins, learns the same and answers the same.** -/
theorem select_alike (hh : host.Respects) (ha : System.Alike ν y y') :
    host.tickExchanges y = host.tickExchanges y' ∧ host.observed y = host.observed y' ∧
      (host.select y).1 = (host.select y').1 ∧
      Named ν (host.select y).2.outside (host.select y').2.outside := by
  -- the tick can end at its limit, at the clock, at the wait, and at the clock again
  have h₀ := hh.report (Reactor.pollSetNotice y'.reactor) ha
  have hleft := hh.remaining_agree h₀ y'.reactor.earliest
  unfold tickExchanges observed select
  rw [hh.hasRoom_eq ha, ha.reactor.pollSetNotice_eq, ha.reactor.pollSet_eq, ha.reactor.earliest_eq]
  split
  · dsimp only
    rw [hh.leftExchanges_eq h₀]
    generalize host.remaining (host.report _ y) _ = left,
      host.remaining (host.report _ y') _ = left' at hleft
    cases hleft with
    | @intro answer y₁ y₁' h₁ =>
      cases answer with
      | error e => exact ⟨rfl, rfl, rfl, h₁.outside⟩
      | ok left =>
        dsimp only
        rw [h₁.reactor.floor, hh.waitExchange_eq h₁]
        generalize waitBound left _ y₁'.reactor.floor = bound
        have hwait := hh.await_agree h₁ y'.reactor.pollSet bound
        generalize host.await y₁ _ bound = waited, host.await y₁' _ bound = waited' at hwait
        cases hwait with
        | @intro answer y₂ y₂' h₂ =>
          cases answer with
          | error e => exact ⟨rfl, rfl, rfl, h₂.outside⟩
          | ok reported =>
            dsimp only
            rw [hh.clockExchange_eq h₂]
            have hread := hh.readClock_agree h₂
            generalize host.readClock y₂ = read, host.readClock y₂' = read' at hread
            cases hread with
            | @intro answer y₃ y₃' h₃ =>
              cases answer with
              | error e => exact ⟨rfl, rfl, rfl, h₃.outside⟩
              | ok now => exact ⟨rfl, rfl, rfl, h₃.outside⟩
  · exact ⟨rfl, rfl, rfl, ha.outside⟩

/-- **A registration is the same for twins**, unless memory is refused. -/
theorem register_alike (hh : host.Respects) (ha : System.Alike ν y y') {request : Request α}
    (hgranted : (host.register y request).1 ≠ .error .outOfMemory)
    (hgranted' : (host.register y' request).1 ≠ .error .outOfMemory) :
    Named ν (host.register y request).2.outside (host.register y' request).2.outside ∧
      ((∃ e, (host.register y request).1 = .error e ∧ (host.register y' request).1 = .error e) ∨
        ∃ h h' due, (host.register y request).1 = .ok h ∧ (host.register y' request).1 = .ok h' ∧
          (host.dueTime y request.timeout).1 = .ok due ∧
          (host.dueTime y' request.timeout).1 = .ok due) := by
  have hdue := hh.dueTime_agree ha request.timeout
  unfold register at hgranted hgranted' ⊢
  generalize host.dueTime y request.timeout = read, host.dueTime y' request.timeout = read' at *
  cases hdue with
  | @intro answer z z' hz =>
    cases answer with
    | error e => exact ⟨hz.outside, Or.inl ⟨e, rfl, rfl⟩⟩
    | ok due =>
      dsimp only at hgranted hgranted' ⊢
      rcases harm : z.reactor.arm (host.memory z.outside) request due with ⟨e | h, r⟩
      · rw [harm, Reactor.error_of_arm hz.reactor.wellFormed harm] at hgranted
        exact absurd rfl hgranted
      · rcases harm' : z'.reactor.arm (host.memory z'.outside) request due with ⟨e | h', r'⟩
        · rw [harm', Reactor.error_of_arm hz.reactor.wellFormed' harm'] at hgranted'
          exact absurd rfl hgranted'
        · exact ⟨hh.notify _ hz.outside, Or.inr ⟨h, h', due, rfl, rfl, rfl, rfl⟩⟩

theorem cancel_alike (hh : host.Respects) (ha : System.Alike ν y y') {h h' : Handle}
    (hp : Paired ν h h') :
    (host.cancel y h).1 = (host.cancel y' h').1 ∧
      Named ν (host.cancel y h).2.outside (host.cancel y' h').2.outside := by
  unfold Host.cancel
  rcases Reactor.cancel_eq ha.reactor.wellFormed h with ⟨hpending, hok⟩ | ⟨hpending, hstale⟩
  · rcases Reactor.cancel_eq ha.reactor.wellFormed' h' with ⟨-, hok'⟩ | ⟨hpending', -⟩
    · rw [show y.reactor.cancel h = (.ok (), (y.reactor.cancel h).2) from Prod.ext hok rfl,
        show y'.reactor.cancel h' = (.ok (), (y'.reactor.cancel h').2) from Prod.ext hok' rfl]
      exact ⟨rfl, hh.cancelled h h' ha.outside⟩
    · rw [ha.reactor.isPending_eq hp, hpending'] at hpending
      cases hpending
  · rcases Reactor.cancel_eq ha.reactor.wellFormed' h' with ⟨hpending', -⟩ | ⟨-, hstale'⟩
    · rw [ha.reactor.isPending_eq hp, hpending'] at hpending
      cases hpending
    · rw [hstale, hstale']
      exact ⟨rfl, ha.outside⟩

end Host.Respects

namespace Occurrence.Like

variable {ν : List (Handle × Handle)} {o o' : Option (Occurrence α)}

theorem happen_eq (hl : Occurrence.Like ν o o') (c : Counters) : c.happen o = c.happen o' := by
  cases hl <;> rfl

theorem invoked_eq (hl : Occurrence.Like ν o o') :
    (o.bind invoked?).map Prod.snd = (o'.bind invoked?).map Prod.snd := by
  cases hl <;> rfl

/-- A handle is given out in both, or in none. -/
theorem length_eq (hl : Occurrence.Like ν o o') :
    (o.bind given?).toList.length = (o'.bind given?).toList.length := by
  cases hl <;> rfl

end Occurrence.Like

/-! ## Steps -/

/-- The answers are the same up to handles that stand for each other, and up to what the pools hold in
spare. -/
inductive Answer.Agrees (ν : List (Handle × Handle)) : Answer → Answer → Prop where
  | registered {h h' : Handle} (hp : Paired ν h h') :
      Agrees ν (.registered (.ok h)) (.registered (.ok h'))
  | unregistered (e : ReactorError) : Agrees ν (.registered (.error e)) (.registered (.error e))
  | cancelled (answer : Except ReactorError Unit) : Agrees ν (.cancelled answer) (.cancelled answer)
  | pending (answer : Bool) : Agrees ν (.pending answer) (.pending answer)
  | found {h h' : Handle} (hp : Paired ν h h') : Agrees ν (.found (some h)) (.found (some h'))
  | missing : Agrees ν (.found none) (.found none)
  | status {s s' : Reactor.Status} (hs : s.standing = s'.standing) : Agrees ν (.status s) (.status s')
  | returned (answer : Except ReactorError Nat) : Agrees ν (.returned answer) (.returned answer)

namespace Machine

/-- The same happens next, in the same surroundings. -/
structure Alike (ν : List (Handle × Handle)) (m m' : Machine (σ × List Handle) α) : Prop where
  outside : Named ν m.system.outside m'.system.outside
  control : Control.Alike ν m.control m'.control
  frames : List.Forall₂ Frame.Alike m.frames m'.frames

/-- The same happens next to reactors that differ in their handles only. -/
structure Twins (ν : List (Handle × Handle)) (m m' : Machine (σ × List Handle) α) : Prop extends
    Machine.Alike ν m m' where
  reactor : Reactor.Twins ν m.system.reactor m'.system.reactor
  counters : m.system.reactor.counters = m'.system.reactor.counters

variable {host : Host (σ × List Handle) α} {ν : List (Handle × Handle)}
  {m m' : Machine (σ × List Handle) α}

theorem Twins.system (t : Twins ν m m') : System.Alike ν m.system m'.system := ⟨t.outside, t.reactor⟩

/-- Twins are in the same state, except for what their pools hold in spare. -/
theorem Twins.standing_eq (t : Twins ν m m') :
    m.system.reactor.status.standing = m'.system.reactor.status.standing := by
  unfold Reactor.status Reactor.Status.standing
  simp only [t.reactor.active_length, t.reactor.pending_eq, t.reactor.ready.length_eq,
    t.reactor.floor, t.counters]

/-- The next step is not refused memory. -/
def Granted (host : Host σ α) (m : Machine σ α) : Prop :=
  m.answer host ≠ some (.registered (.error .outOfMemory))

theorem Granted.register {host : Host σ α} {m : Machine σ α} (hg : m.Granted host)
    {request : Request α} {next : Except ReactorError Handle → Program σ α}
    (hc : m.control = .program (.register request next)) :
    (host.register m.system request).1 ≠ .error .outOfMemory := by
  intro he
  refine hg ?_
  unfold answer
  rw [hc, ← he]

theorem willTick_eq (hh : host.Respects) (t : Twins ν m m') : m.willTick host = m'.willTick host := by
  have hcontrol := t.control
  unfold willTick
  generalize m.control = c, m'.control = c' at hcontrol
  cases hcontrol with
  | driver ticks maxTicks =>
    dsimp only
    rw [hh.stopped t.outside]
  | program hp => rfl
  | drain served => rfl
  | answer result => rfl

/-- A step asks the same of the surroundings. -/
theorem exchanges_eq (hh : host.Respects) (t : Twins ν m m') : m.exchanges host = m'.exchanges host := by
  have hcontrol := t.control
  have htick := (hh.select_alike t.system).1
  unfold exchanges
  rw [willTick_eq hh t]
  generalize m.control = c, m'.control = c' at hcontrol
  cases hcontrol with
  | program hp =>
    cases hp with
    | @register _ request next next' failed accepted =>
      exact hh.dueExchanges_eq t.system request.timeout
    | tick goes => exact htick
    | _ => rfl
  | driver ticks maxTicks =>
    dsimp only
    rw [htick]
  | drain served => rfl
  | answer result => rfl

theorem selection_like (hh : host.Respects) {y y' : System (σ × List Handle) α}
    (ha : System.Alike ν y y') :
    Occurrence.Like ν (host.selection y) (host.selection y') := by
  unfold Host.selection
  rw [(hh.select_alike ha).2.1]
  cases host.observed y' with
  | none => exact .none
  | some seen => exact .selected seen.1 seen.2

theorem withdrawal_like (hh : host.Respects) {y y' : System (σ × List Handle) α}
    (ha : System.Alike ν y y') {h h' : Handle} (hp : Paired ν h h') :
    Occurrence.Like ν (host.withdrawal y h) (host.withdrawal y' h') := by
  unfold Host.withdrawal
  rw [(hh.cancel_alike ha hp).1]
  cases (host.cancel y' h').1 with
  | ok u => exact .cancelled hp
  | error e => exact .none

theorem dispatched_like {r r' : Reactor α} (t : Reactor.Twins ν r r') :
    Occurrence.Like ν r.dispatched r'.dispatched := by
  unfold Reactor.dispatched
  rcases t.takeReady_cases with
    ⟨hq, hq', hnone, hnone'⟩ | ⟨h, h', e, r₁, r₁', hsome, hsome', htakes, htakes'⟩
  · rw [hq, hq', hnone, hnone']
    exact .none
  · rw [hsome, hsome', htakes.ready, htakes'.ready]
    exact .invoked (t.paired_of_takes htakes htakes').1 e

theorem registration_like (hh : host.Respects) {y y' : System (σ × List Handle) α}
    (ha : System.Alike ν y y') {request : Request α}
    (hgranted : (host.register y request).1 ≠ .error .outOfMemory)
    (hgranted' : (host.register y' request).1 ≠ .error .outOfMemory) :
    Occurrence.Like ν (host.registration y request) (host.registration y' request) := by
  unfold Host.registration
  rcases (hh.register_alike ha hgranted hgranted').2 with
    ⟨e, he, he'⟩ | ⟨h, h', due, hok, hok', hdue, hdue'⟩
  · rw [he, he']
    exact .none
  · rw [hok, hok', hdue, hdue']
    exact .registered h h' request due

/-- **The same happens to twins in a step.** -/
theorem occurrence_like (hh : host.Respects) (t : Twins ν m m') (hg : m.Granted host)
    (hg' : m'.Granted host) :
    Occurrence.Like ν (m.occurrence host) (m'.occurrence host) := by
  have hcontrol := t.control
  unfold occurrence
  rw [willTick_eq hh t]
  generalize hc : m.control = c, hc' : m'.control = c' at hcontrol
  cases hcontrol with
  | program hp =>
    cases hp with
    | register failed accepted =>
      exact registration_like hh t.system (hg.register hc) (hg'.register hc')
    | cancel hp goes => exact withdrawal_like hh t.system hp
    | tick goes => exact selection_like hh t.system
    | _ => exact .none
  | driver ticks maxTicks =>
    dsimp only
    split
    · exact selection_like hh t.system
    · exact .none
  | drain served => exact dispatched_like t.reactor
  | answer result => exact .none

/-! ## Which handles come to stand for each other -/

theorem newPairs_of_not_register {o' : Option (Occurrence α)}
    (hc : ∀ request next, m.control ≠ .program (.register request next)) :
    newPairs (m.occurrence host) o' = [] := by
  unfold newPairs
  rw [given_eq_none hc]
  rfl

/-- A registration is refused to both, or accepted from both, and then the new handles are a pair. -/
theorem register_cases (hh : host.Respects) (t : Twins ν m m') (hg : m.Granted host) (hg' : m'.Granted host)
    {request : Request α} {next next' : Except ReactorError Handle → Program (σ × List Handle) α}
    (hc : m.control = .program (.register request next))
    (hc' : m'.control = .program (.register request next')) :
    (∃ e, (host.register m.system request).1 = .error e ∧
        (host.register m'.system request).1 = .error e ∧
        newPairs (m.occurrence host) (m'.occurrence host) = []) ∨
      ∃ h h', (host.register m.system request).1 = .ok h ∧
        (host.register m'.system request).1 = .ok h' ∧
        newPairs (m.occurrence host) (m'.occurrence host) = [(h, h')] := by
  unfold occurrence
  rw [hc, hc']
  dsimp only
  unfold Host.registration
  rcases (hh.register_alike t.system (hg.register hc) (hg'.register hc')).2 with
    ⟨e, he, he'⟩ | ⟨h, h', due, hok, hok', hdue, hdue'⟩
  · rw [he, he']
    exact Or.inl ⟨e, rfl, rfl, rfl⟩
  · rw [hok, hok', hdue, hdue']
    exact Or.inr ⟨h, h', rfl, rfl, rfl⟩

/-- A step answers the same. -/
theorem answer_agrees (hh : host.Respects) (t : Twins ν m m') (hg : m.Granted host) (hg' : m'.Granted host) :
    Option.Rel (Answer.Agrees (ν ++ newPairs (m.occurrence host) (m'.occurrence host)))
      (m.answer host) (m'.answer host) := by
  have hcontrol := t.control
  unfold answer
  generalize hc : m.control = c, hc' : m'.control = c' at hcontrol
  cases hcontrol with
  | drain served => exact .none
  | driver ticks maxTicks => exact .none
  | answer result => exact .some (.returned result)
  | program hp =>
    cases hp with
    | done => exact .none
    | outside acts goes => exact .none
    | register failed accepted =>
      dsimp only
      rcases register_cases hh t hg hg' hc hc' with ⟨e, he, he', -⟩ | ⟨h, h', hok, hok', hpair⟩
      · rw [he, he']
        exact .some (.unregistered e)
      · rw [hok, hok', hpair]
        exact .some (.registered (paired_append_singleton ν h h'))
    | cancel hp goes =>
      dsimp only
      rw [(hh.cancel_alike t.system hp).1]
      exact .some (.cancelled _)
    | isPending hp goes =>
      dsimp only
      rw [t.reactor.isPending_eq hp]
      exact .some (.pending _)
    | @lookup _ d callback next next' missing found =>
      have hlookup := t.reactor.lookup d callback
      dsimp only
      generalize m.system.reactor.lookup d callback = l, m'.system.reactor.lookup d callback = l' at hlookup
      cases hlookup with
      | none => exact .some .missing
      | some hp => exact .some (.found (hp.append _))
    | status goes => exact .some (.status (t.standing_eq))
    | tick goes => exact .none
    | drive goes => exact .none

/-! ## Where a step leads -/

theorem beginTick_alike (hh : host.Respects) {y y' : System (σ × List Handle) α}
    (ha : System.Alike ν y y')
    {frames frames' : List (Frame (σ × List Handle) α)} (hf : List.Forall₂ Frame.Alike frames frames') :
    Alike ν (beginTick host y frames) (beginTick host y' frames') := by
  obtain ⟨-, -, hanswer, houtside⟩ := hh.select_alike ha
  rw [beginTick_eq, beginTick_eq]
  refine ⟨houtside, ?_, hf⟩
  dsimp only
  rw [hanswer]
  rcases (host.select y').1 with e | u
  · exact .answer _
  · exact .drain 0

theorem stepDrain_alike (hh : host.Respects) {y y' : System (σ × List Handle) α}
    (ha : System.Alike ν y y') (served : Nat)
    {frames frames' : List (Frame (σ × List Handle) α)} (hf : List.Forall₂ Frame.Alike frames frames') :
    Alike ν (stepDrain host y served frames) (stepDrain host y' served frames') := by
  unfold stepDrain
  rcases ha.reactor.takeReady_cases with ⟨-, -, hnone, hnone'⟩ | ⟨h, h', e, r, r', hsome, hsome', -⟩
  · rw [hnone, hnone']
    exact ⟨ha.outside, .answer _, hf⟩
  · rw [hsome, hsome']
    exact ⟨hh.notify _ ha.outside, .program (hh.callback ν e.callback e), .cons (.drain _) hf⟩

theorem stepDriver_alike (hh : host.Respects) (t : Twins ν m m') (ticks : Nat) (maxTicks : Option UInt64) :
    Alike ν (stepDriver host m.system ticks maxTicks m.frames)
      (stepDriver host m'.system ticks maxTicks m'.frames) := by
  unfold stepDriver endDrive
  rw [hh.stopped t.outside]
  split
  · -- the notice at the end tells of the counters
    rw [t.counters]
    exact ⟨hh.notify _ t.outside, .answer _, t.frames⟩
  · split
    · refine ⟨?_, .answer _, t.frames⟩
      dsimp only [Host.report]
      rw [t.counters]
      exact hh.notify _ (hh.notify _ t.outside)
    · exact beginTick_alike hh t.system (.cons (.driver ticks maxTicks) t.frames)

theorem afterTick_alike (hh : host.Respects) {y y' : System (σ × List Handle) α}
    (hs : Named ν y.outside y'.outside) (ticks : Nat) (maxTicks : Option UInt64)
    (result : Except ReactorError Nat) {frames frames' : List (Frame (σ × List Handle) α)}
    (hf : List.Forall₂ Frame.Alike frames frames') :
    Alike ν (afterTick host y ticks maxTicks result frames)
      (afterTick host y' ticks maxTicks result frames') := by
  have hnotified := hh.notify (Driver.tickNotice ticks result) hs
  unfold afterTick
  rcases result with e | served
  · cases e with
    | interrupted => exact ⟨hnotified, .driver _ _, hf⟩
    | _ => exact ⟨hnotified, .answer _, hf⟩
  · exact ⟨hnotified, .driver _ _, hf⟩

/-- A program that does not register goes on alike. -/
theorem stepProgram_alike (hh : host.Respects) (t : Twins ν m m') {p p' : Program (σ × List Handle) α}
    (hp : Program.Alike ν p p') (hnot : ∀ request next, p ≠ .register request next) :
    Option.Rel (Alike ν) (stepProgram host m.system m.frames p)
      (stepProgram host m'.system m'.frames p') := by
  have hframes := t.frames
  cases hp with
  | done =>
    dsimp only [stepProgram]
    generalize m.frames = frames, m'.frames = frames' at hframes
    cases hframes with
    | nil => exact .none
    | cons hf hrest =>
      cases hf with
      | caller goes => exact .none
      | drain served => exact .some ⟨t.outside, .drain served, hrest⟩
      | driver ticks maxTicks => exact .none
  | outside acts goes =>
    exact .some ⟨acts _ _ t.outside, .program (goes _ _ (acts _ _ t.outside)), hframes⟩
  | @register _ request next => exact absurd rfl (hnot request next)
  | cancel hp goes =>
    obtain ⟨hanswer, houtside⟩ := hh.cancel_alike t.system hp
    dsimp only [stepProgram]
    rw [hanswer]
    exact .some ⟨houtside, .program (goes _), hframes⟩
  | isPending hp goes =>
    dsimp only [stepProgram]
    rw [t.reactor.isPending_eq hp]
    exact .some ⟨t.outside, .program (goes _), hframes⟩
  | @lookup _ d callback next next' missing found =>
    have hlookup := t.reactor.lookup d callback
    dsimp only [stepProgram]
    generalize m.system.reactor.lookup d callback = l, m'.system.reactor.lookup d callback = l' at hlookup
    cases hlookup with
    | none => exact .some ⟨t.outside, .program missing, hframes⟩
    | some hp => exact .some ⟨t.outside, .program (found _ _ hp), hframes⟩
  | status goes => exact .some ⟨t.outside, .program (goes _ _ (t.standing_eq)), hframes⟩
  | tick goes => exact .some (beginTick_alike hh t.system (.cons (.caller goes) hframes))
  | drive goes =>
    exact .some ⟨hh.notify _ t.outside, .driver _ _, .cons (.caller goes) hframes⟩

/-- **The same happens next to twins after a step.** -/
theorem step_rel (hh : host.Respects) (t : Twins ν m m') (hg : m.Granted host) (hg' : m'.Granted host)
    (hν : OneToOne (ν ++ newPairs (m.occurrence host) (m'.occurrence host))) :
    Option.Rel (Alike (ν ++ newPairs (m.occurrence host) (m'.occurrence host))) (m.step host)
      (m'.step host) := by
  have hcontrol := t.control
  by_cases hreg : ∃ request next, m.control = .program (.register request next)
  · obtain ⟨request, next, hc⟩ := hreg
    rw [hc] at hcontrol
    generalize hc' : m'.control = c' at hcontrol
    cases hcontrol with
    | program hp =>
      cases hp with
      | register failed accepted =>
        have houtside := (hh.register_alike t.system (hg.register hc) (hg'.register hc')).1
        unfold step
        rw [hc, hc']
        dsimp only [stepProgram]
        rcases register_cases hh t hg hg' hc hc' with ⟨e, he, he', hpair⟩ | ⟨h, h', hok, hok', hpair⟩
        · rw [hpair, List.append_nil, he, he']
          exact .some ⟨houtside, .program (failed e), t.frames⟩
        · rw [hpair] at hν ⊢
          rw [hok, hok']
          exact .some ⟨houtside.append hν,
            .program (accepted _ h h' (paired_append_singleton ν h h')), t.frames⟩
  · -- no other step brings a pair
    have hnot : ∀ request next, m.control ≠ .program (.register request next) :=
      fun request next hc => hreg ⟨request, next, hc⟩
    rw [newPairs_of_not_register hnot, List.append_nil]
    unfold step
    generalize m.control = c, m'.control = c' at hcontrol hnot
    cases hcontrol with
    | program hp => exact stepProgram_alike hh t hp fun request next he => hnot request next (he ▸ rfl)
    | drain served => exact .some (stepDrain_alike hh t.system served t.frames)
    | driver ticks maxTicks => exact .some (stepDriver_alike hh t ticks maxTicks)
    | answer result =>
      have hframes := t.frames
      dsimp only
      generalize m.frames = frames, m'.frames = frames' at hframes
      cases hframes with
      | nil => exact .none
      | cons hf hrest =>
        cases hf with
        | caller goes => exact .some ⟨t.outside, .program (goes ν result), hrest⟩
        | drain served => exact .none
        | driver ticks maxTicks => exact .some (afterTick_alike hh t.outside ticks maxTicks result hrest)

/-- **Twins are twins after a step.** -/
theorem step_twins (hh : host.Respects) (t : Twins ν m m') (hg : m.Granted host) (hg' : m'.Granted host)
    (hν : OneToOne (ν ++ newPairs (m.occurrence host) (m'.occurrence host))) :
    Option.Rel (Twins (ν ++ newPairs (m.occurrence host) (m'.occurrence host))) (m.step host)
      (m'.step host) := by
  have hlike := occurrence_like hh t hg hg'
  have hexchanges := exchanges_eq hh t
  have hrel := step_rel hh t hg hg' hν
  generalize hs : m.step host = next, hs' : m'.step host = next' at hrel
  cases hrel with
  | none => exact .none
  | @some m₁ m₁' halike =>
    refine .some ⟨halike, ?_, ?_⟩
    · exact Reactor.Effect.twins t.reactor hlike (effect_of_step t.reactor.wellFormed hs)
        (effect_of_step t.reactor.wellFormed' hs') hν
    · rw [counters_of_step t.reactor.wellFormed hs, counters_of_step t.reactor.wellFormed' hs',
        t.counters, hexchanges]
      exact hlike.happen_eq _

end Machine

end EventLoop
