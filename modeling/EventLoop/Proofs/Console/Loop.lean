import EventLoop.Console.Run
import EventLoop.Proofs.Console.Expects
import EventLoop.Proofs.Console.Reading
import EventLoop.Proofs.Machine.Run

/-!
# The loop of a console

The driver loop of a console makes tick after tick. When the input can be read whenever it is waited for, each
tick reads one piece of it and registers the input again, until the session is stopped.

* `Host.Supplies` — what the surroundings have to do for that.
* `reaches_of_heartbeat`, `reaches_of_input` — what becomes of one dispatch.
* `reaches_of_hasRead`, `reaches_of_willRead` — what becomes of a tick, by induction on the ready queue.
* `reaches_of_driver` — what becomes of the loop, by induction on the pieces.
-/

namespace EventLoop

/-! ## The surroundings -/

/-- Surroundings in which nothing goes wrong, and in which input that has arrived is reported to whoever waits
for it. -/
structure Host.Supplies (host : Host Terminal Unit) (memory : Memory) (period : Span) (number : Int32) :
    Prop where
  grants : ∀ t what bytes, (host.memory t).grants what bytes = true
  now : ∀ t, ∃ now clock, host.now t = (.ok now, { t with clock })
  wait : ∀ entries bound t, t.arrivals ≠ [] → ∃ reported clock,
    host.wait entries bound t = (.ok reported, { t with clock }) ∧
      ∀ (k : Nat) e, entries[k]? = some e → e.number = number → e.asked.meets .input = true →
        ∃ c, reported[k]? = some c ∧ c.fired.contains .read = true
  notify : host.notify = Terminal.notify
  stopped : ∀ t, host.stopped t = t.session.stopped
  callback : host.callback = Terminal.callback memory period

/-- The surroundings that a console has are such, if memory is granted. -/
theorem Terminal.supplies_host {memory : Memory} (hmem : ∀ what bytes, memory.grants what bytes = true)
    (period : Span) (number : Int32) : (Terminal.host memory period).Supplies memory period number where
  grants _ := hmem
  now t := ⟨t.clock, t.clock, rfl⟩
  wait entries bound t hne := by
    refine ⟨_, t.clock, rfl, fun k e he hnumber hasked => ?_⟩
    have hreadable : t.inputEndpoint = .readable := by
      unfold Terminal.inputEndpoint
      rw [if_neg (by simpa using hne)]
    refine ⟨Endpoint.readable.report e.asked, ?_, ?_⟩
    · rw [List.getElem?_map, he, hreadable]
      rfl
    · have hseen : (Endpoint.readable.report e.asked).meets .input = true := by
        rw [Endpoint.report, Conditions.meets_inter rfl, Conditions.meets_comm, Conditions.meets_union,
          Conditions.meets_comm, hasked]
        rfl
      rw [Conditions.contains_read_fired, hseen]
      rfl
  notify := rfl
  stopped _ := rfl
  callback := rfl

/-- A terminal whose session is a given one but for the notices, and for which these pieces are left to read. -/
structure Terminal.Holds (s : Session) (pieces : List (List UInt8)) (t : Terminal) : Prop where
  session : t.session.quiet = s.quiet
  arrivals : t.arrivals = pieces.map .ok

namespace Terminal.Holds

variable {s : Session} {pieces : List (List UInt8)} {t : Terminal}

theorem notify (h : t.Holds s pieces) (n : Notice) : (t.notify n).Holds s pieces :=
  ⟨(t.session.quiet_sayNotice n).trans h.session, h.arrivals⟩

theorem atClock (h : t.Holds s pieces) (clock : Instant) : ({ t with clock } : Terminal).Holds s pieces :=
  ⟨h.session, h.arrivals⟩

theorem stopped (h : t.Holds s pieces) : t.session.stopped = s.stopped :=
  Session.stopped_of_quiet h.session

theorem read {piece : List UInt8} {rest : List (List UInt8)} (h : t.Holds s (piece :: rest))
    (memory : Memory) : (t.read memory).Holds (s.receive memory piece) rest := by
  have harrivals : t.arrivals = .ok piece :: rest.map .ok := h.arrivals
  exact ⟨(quiet_read harrivals).trans (Session.quiet_receive memory h.session piece),
    arrivals_read harrivals⟩

end Terminal.Holds

/-! ## Operations -/

namespace Host.Supplies

variable {host : Host Terminal Unit} {memory : Memory} {period : Span} {number : Int32}
  {y : System Terminal Unit} {s : Session} {pieces : List (List UInt8)}

theorem report (v : host.Supplies memory period number) (hh : y.outside.Holds s pieces) (n : Notice) :
    (host.report n y).outside.Holds s pieces := by
  unfold Host.report
  rw [v.notify]
  exact hh.notify n

theorem readClock (v : host.Supplies memory period number) (hh : y.outside.Holds s pieces) :
    ∃ now y', host.readClock y = (.ok now, y') ∧ y'.reactor = y.reactor ∧ y'.outside.Holds s pieces := by
  obtain ⟨now, clock, hnow⟩ := v.now y.outside
  refine ⟨now, { y with outside := { y.outside with clock } }, ?_, rfl, hh.atClock clock⟩
  unfold Host.readClock
  rw [hnow]

theorem remaining (v : host.Supplies memory period number) (hh : y.outside.Holds s pieces)
    (due : Option Instant) : ∃ left y', host.remaining y due = (.ok left, y') ∧
      y'.reactor = y.reactor ∧ y'.outside.Holds s pieces := by
  unfold Host.remaining
  cases due with
  | none => exact ⟨none, y, rfl, rfl, hh⟩
  | some due =>
    obtain ⟨now, y', hread, hreactor, hholds⟩ := v.readClock hh
    refine ⟨some (due.since now), y', ?_, hreactor, hholds⟩
    dsimp only
    rw [hread]

theorem dueTime (v : host.Supplies memory period number) (hh : y.outside.Holds s pieces)
    (timeout : Timeout) : ∃ due y', host.dueTime y timeout = (.ok due, y') ∧
      y'.reactor = y.reactor ∧ y'.outside.Holds s pieces := by
  unfold Host.dueTime
  cases timeout with
  | infinite => exact ⟨none, y, rfl, rfl, hh⟩
  | after delay =>
    obtain ⟨now, y', hread, hreactor, hholds⟩ := v.readClock hh
    refine ⟨some (now + delay), y', ?_, hreactor, hholds⟩
    dsimp only
    rw [hread]

theorem await (v : host.Supplies memory period number) (hh : y.outside.Holds s pieces) (hne : pieces ≠ [])
    (entries : List PollEntry) (bound : Option Span) :
    ∃ reported y', host.await y entries bound = (.ok reported, y') ∧
      y'.reactor = y.reactor.recount y.reactor.counters.tick ∧ y'.outside.Holds s pieces ∧
      ∀ (k : Nat) e, entries[k]? = some e → e.number = number → e.asked.meets .input = true →
        ∃ c, reported[k]? = some c ∧ c.fired.contains .read = true := by
  have hnotified := v.report hh (Reactor.waitingNotice entries bound)
  have hleft : (host.report (Reactor.waitingNotice entries bound) y).outside.arrivals ≠ [] := by
    rw [hnotified.arrivals]
    exact fun hnil => hne (List.map_eq_nil_iff.mp hnil)
  obtain ⟨reported, clock, hwait, hread⟩ := v.wait entries bound _ hleft
  refine ⟨reported, { reactor := y.reactor.recount y.reactor.counters.tick, outside := _ }, ?_, rfl,
    hnotified.atClock clock, hread⟩
  unfold Host.await
  dsimp only
  rw [show host.wait entries bound (host.notify (Reactor.waitingNotice entries bound) y.outside) = _ from
    hwait]
  rfl

/-- **A tick gets past its wait, and finds the input ready.** -/
theorem select (v : host.Supplies memory period number) {input : Option Handle} {most : Nat}
    (x : y.reactor.Expects number input most) (hh : y.outside.Holds s pieces) (hne : pieces ≠ []) :
    ∃ y', host.select y = (.ok (), y') ∧ y'.reactor.Expects number input most ∧
      (∀ h, input = some h → h ∈ y'.reactor.ready) ∧ y'.outside.Holds s pieces := by
  have hroom : host.hasRoom y = true := by
    unfold hasRoom
    rw [v.grants, v.grants]
    rfl
  obtain ⟨left, y₁, hleft, hsame₁, hholds₁⟩ :=
    v.remaining (v.report hh (Reactor.pollSetNotice y.reactor)) y.reactor.earliest
  obtain ⟨reported, y₂, hawait, hcounted, hholds₂, hread⟩ := v.await hholds₁ hne y.reactor.pollSet
    (waitBound left (!y.reactor.pollSet.isEmpty) y₁.reactor.floor)
  obtain ⟨now, y₃, hnow, hsame₃, hholds₃⟩ := v.readClock hholds₂
  -- nothing but the count of ticks has changed in what is collected from
  have hreactor : y₃.reactor = y.reactor.recount y.reactor.counters.tick := by
    rw [hsame₃, hcounted, hsame₁]
    rfl
  have hexpects : y₃.reactor.Expects number input most := hreactor ▸ x.recount _
  refine ⟨{ y₃ with reactor := y₃.reactor.collect reported now }, ?_, hexpects.collect reported now, ?_,
    hholds₃⟩
  · unfold Host.select
    rw [if_pos hroom]
    dsimp only
    rw [hleft]
    dsimp only
    rw [hawait]
    dsimp only
    rw [hnow]
  · rintro h rfl
    refine hexpects.mem_ready_of_collect ?_ now
    rw [hreactor]
    exact hread

/-- **A registration succeeds.** -/
theorem register (v : host.Supplies memory period number) {input : Option Handle} {most : Nat}
    (x : y.reactor.Expects number input most) (hfew : most < 4294967296)
    (hh : y.outside.Holds s pieces) (request : Request Unit) :
    ∃ h g due y', host.register y request = (.ok h, y') ∧ y.reactor.Arms request due h g y'.reactor ∧
      y'.reactor.Grows ∧ y'.outside.Holds s pieces := by
  obtain ⟨due, y₁, hdue, hsame, hholds⟩ := v.dueTime hh request.timeout
  rw [← hsame] at x
  obtain ⟨h, r, harm⟩ := Reactor.arm_ok (v.grants y₁.outside) x.wellFormed x.grows
    (Nat.lt_of_le_of_lt x.few hfew) request due
  obtain ⟨g, harms⟩ := Reactor.arms_of_arm x.wellFormed harm
  rw [hsame] at harms
  refine ⟨h, g, due, host.report (Reactor.registeredNotice request due) { y₁ with reactor := r }, ?_, harms,
    x.grows.arm harm, v.report (y := { y₁ with reactor := r }) hholds _⟩
  unfold Host.register
  rw [hdue]
  dsimp only
  rw [harm]

end Host.Supplies

/-! ## Between dispatches -/

/-- The input was not read since it was waited for. -/
structure System.WillRead (number : Int32) (h : Handle) (s : Session) (pieces : List (List UInt8))
    (y : System Terminal Unit) : Prop where
  expects : y.reactor.Expects number (some h) 2
  ready : h ∈ y.reactor.ready
  holds : y.outside.Holds s pieces

/-- The input was read, and waits to be read again unless the session has stopped. -/
structure System.HasRead (number : Int32) (input : Option Handle) (s : Session)
    (pieces : List (List UInt8)) (y : System Terminal Unit) : Prop where
  expects : y.reactor.Expects number input 2
  waits : ∀ h, input = some h → h ∉ y.reactor.ready
  armed : input.isSome = !s.stopped
  holds : y.outside.Holds s pieces

namespace Machine

variable {host : Host Terminal Unit} {memory : Memory} {period : Span} {number : Int32}
  {y : System Terminal Unit} {s : Session} {pieces : List (List UInt8)}
  (frames : List (Frame Terminal Unit))

/-! ## Callbacks -/

theorem step_register {y' : System Terminal Unit} {request : Request Unit}
    {result : Except ReactorError Handle} (h : host.register y request = (result, y'))
    (next : Except ReactorError Handle → Terminal.Play) :
    step host ⟨y, .program (.register request next), frames⟩ = some ⟨y', .program (next result), frames⟩ := by
  unfold step stepProgram
  dsimp only
  rw [h]

/-- **A heartbeat is registered again.** -/
theorem reaches_of_heartbeat (v : host.Supplies memory period number) {input : Option Handle}
    (x : y.reactor.Expects number input 1) (hh : y.outside.Holds s pieces) {e : Event Unit}
    (he : e.callback = Terminal.heartbeatCallback) (served : Nat) :
    ∃ y', Reaches host ⟨y, .program (host.callback e.callback e), .drain served :: frames⟩
        ⟨y', .drain served, frames⟩ ∧
      y'.reactor.Expects number input 2 ∧ y'.reactor.ready = y.reactor.ready ∧
      y'.outside.Holds s pieces := by
  have hcallback : host.callback e.callback e = Terminal.onHeartbeat period e := by
    rw [v.callback, he, Terminal.callback, if_neg (by decide), if_pos rfl]
  have hnotified := hh.notify (Terminal.heartbeatNotice y.reactor.status y.outside)
  obtain ⟨h, g, due, y', hreg, harms, hgrows, hholds⟩ :=
    v.register (y := ⟨y.reactor, y.outside.notify _⟩) x (by decide) hnotified
      (e.again .none (.after period))
  refine ⟨y', ?_, x.arms_heartbeat harms hgrows he, harms.ready, hholds⟩
  rw [hcallback]
  exact .step rfl (.step rfl (.step (step_register _ hreg _) (.step rfl (.refl _ _))))

/-- **The input is read, and registered again unless that stops the session.** -/
theorem reaches_of_input (v : host.Supplies memory period number) (x : y.reactor.Expects number none 1)
    {piece : List UInt8} {rest : List (List UInt8)} (hh : y.outside.Holds s (piece :: rest))
    {e : Event Unit} (he : e.callback = Terminal.inputCallback) (hd : e.descriptor = .fd number)
    (served : Nat) :
    ∃ y' input, Reaches host ⟨y, .program (host.callback e.callback e), .drain served :: frames⟩
        ⟨y', .drain served, frames⟩ ∧
      y'.HasRead number input (s.receive memory piece) rest ∧ y'.reactor.ready = y.reactor.ready := by
  have hcallback : host.callback e.callback e = Terminal.onInput memory e := by
    rw [v.callback, he, Terminal.callback, if_pos rfl]
  have hread := hh.read memory
  rw [hcallback]
  by_cases hstop : (y.outside.read memory).session.stopped = true
  · refine ⟨{ y with outside := y.outside.read memory }, none, ?_, ⟨x.mono (by decide), nofun, ?_, hread⟩,
      rfl⟩
    · refine .step rfl ?_
      dsimp only
      rw [if_pos hstop]
      exact .step rfl (.refl _ _)
    · rw [← hread.stopped, hstop]
      rfl
  · obtain ⟨h, g, due, y', hreg, harms, hgrows, hholds⟩ :=
      v.register (y := ⟨y.reactor, y.outside.read memory⟩) x (by decide) hread (e.again .read .infinite)
    refine ⟨y', some h, ?_, ⟨x.arms_input harms hgrows hd he rfl, ?_, ?_, hholds⟩, harms.ready⟩
    · refine .step rfl ?_
      dsimp only
      rw [if_neg hstop]
      exact .step (step_register _ hreg _) (.step rfl (.refl _ _))
    · rintro k ⟨⟩ hready
      rw [harms.ready] at hready
      obtain ⟨n, hn, -⟩ := (x.wellFormed.mem_ready h).mp hready
      rw [harms.notifications.absent] at hn
      cases hn
    · rw [← hread.stopped, eq_false_of_ne_true hstop]
      rfl

/-! ## Ticks -/

theorem step_drain {r : Reactor Unit} {e : Event Unit} (h : y.reactor.takeReady = some (some e, r))
    (served : Nat) : step host ⟨y, .drain served, frames⟩ =
      some ⟨host.report (Reactor.dispatchNotice e) { y with reactor := r },
        .program (host.callback e.callback e), .drain (served + 1) :: frames⟩ := by
  unfold step stepDrain
  dsimp only
  rw [h]

theorem step_drain_end (h : y.reactor.takeReady = none) (served : Nat) :
    step host ⟨y, .drain served, frames⟩ = some ⟨y, .answer (.ok served), frames⟩ := by
  unfold step stepDrain
  dsimp only
  rw [h]

/-- What a tick does when a heartbeat is the first in the queue. -/
theorem reaches_of_heartbeat_first (v : host.Supplies memory period number) {input : Option Handle}
    (x : y.reactor.Expects number input 2) (hh : y.outside.Holds s pieces) {h : Handle}
    {rest : List Handle} (hq : y.reactor.ready = h :: rest) (hne : input ≠ some h) (served : Nat) :
    ∃ y', Reaches host ⟨y, .drain served, frames⟩ ⟨y', .drain (served + 1), frames⟩ ∧
      y'.reactor.Expects number input 2 ∧ y'.reactor.ready = rest ∧ y'.outside.Holds s pieces := by
  obtain ⟨e, r, ht, htakes, hrest⟩ := Reactor.exists_takes x.wellFormed hq
  have hleft : r.Expects number input 1 := x.takes htakes (x.grows.takeReady ht) fun i => by
    refine ⟨fun hi => ⟨hi, ?_⟩, And.left⟩
    rintro rfl
    exact hne hi
  obtain ⟨y', hreach, hexpects, hready, hholds⟩ :=
    reaches_of_heartbeat frames (y := host.report (Reactor.dispatchNotice e) ⟨r, y.outside⟩)
      v hleft (v.report (y := ⟨r, y.outside⟩) hh _) (x.heartbeat_of_takes htakes hne) (served + 1)
  exact ⟨y', .step (step_drain _ ht served) hreach, hexpects, hready.trans hrest, hholds⟩

/-- What a tick does when the input is the first in the queue. -/
theorem reaches_of_input_first (v : host.Supplies memory period number) {h : Handle}
    (x : y.reactor.Expects number (some h) 2) {piece : List UInt8} {left : List (List UInt8)}
    (hh : y.outside.Holds s (piece :: left)) {rest : List Handle} (hq : y.reactor.ready = h :: rest)
    (served : Nat) :
    ∃ y' input, Reaches host ⟨y, .drain served, frames⟩ ⟨y', .drain (served + 1), frames⟩ ∧
      y'.HasRead number input (s.receive memory piece) left ∧ y'.reactor.ready = rest := by
  obtain ⟨e, r, ht, htakes, hrest⟩ := Reactor.exists_takes x.wellFormed hq
  obtain ⟨hcallback, hdesc⟩ := x.input_of_takes htakes
  have hleft : r.Expects number none 1 := x.takes htakes (x.grows.takeReady ht) fun i => by
    refine ⟨nofun, ?_⟩
    rintro ⟨⟨⟩, hne⟩
    exact absurd rfl hne
  obtain ⟨y', input, hreach, hread, hready⟩ :=
    reaches_of_input frames (y := host.report (Reactor.dispatchNotice e) ⟨r, y.outside⟩)
      v hleft (v.report (y := ⟨r, y.outside⟩) hh _) hcallback hdesc (served + 1)
  exact ⟨y', input, .step (step_drain _ ht served) hreach, hread, hready.trans hrest⟩

/-- Once the input was read a tick ends after the heartbeats that are left. -/
theorem reaches_of_hasRead (v : host.Supplies memory period number) {input : Option Handle}
    (x : y.HasRead number input s pieces) (served : Nat) :
    ∃ y' total, Reaches host ⟨y, .drain served, frames⟩ ⟨y', .answer (.ok total), frames⟩ ∧
      y'.HasRead number input s pieces ∧ y'.reactor.ready = [] := by
  -- the queue has one less after each dispatch
  induction hq : y.reactor.ready generalizing y served with
  | nil =>
    exact ⟨y, served, .step (step_drain_end _ (Reactor.takeReady_of_nil hq) served) (.refl _ _), x, hq⟩
  | cons h rest ih =>
    have hne : input ≠ some h := fun hi => x.waits h hi (hq ▸ List.mem_cons_self)
    obtain ⟨y₁, hreach₁, hexpects, hready, hholds⟩ :=
      reaches_of_heartbeat_first frames v x.expects x.holds hq hne served
    have hwaits : ∀ k, input = some k → k ∉ y₁.reactor.ready := by
      intro k hk hmem
      rw [hready] at hmem
      exact x.waits k hk (hq ▸ List.mem_cons_of_mem _ hmem)
    obtain ⟨y', total, hreach, hread, hnil⟩ := ih ⟨hexpects, hwaits, x.armed, hholds⟩ (served + 1) hready
    exact ⟨y', total, hreach₁.trans hreach, hread, hnil⟩

/-- **A tick that finds the input ready reads it once.** -/
theorem reaches_of_willRead (v : host.Supplies memory period number) {h : Handle} {piece : List UInt8}
    {left : List (List UInt8)} (x : y.WillRead number h s (piece :: left)) (served : Nat) :
    ∃ y' input total, Reaches host ⟨y, .drain served, frames⟩ ⟨y', .answer (.ok total), frames⟩ ∧
      y'.HasRead number input (s.receive memory piece) left ∧ y'.reactor.ready = [] := by
  -- heartbeats may come before the input
  induction hq : y.reactor.ready generalizing y served with
  | nil =>
    have hmem := x.ready
    rw [hq] at hmem
    cases hmem
  | cons k rest ih =>
    by_cases hk : k = h
    · subst hk
      obtain ⟨y₁, input, hreach₁, hread₁, -⟩ :=
        reaches_of_input_first frames v x.expects x.holds hq served
      obtain ⟨y', total, hreach, hread, hnil⟩ := reaches_of_hasRead frames v hread₁ (served + 1)
      exact ⟨y', input, total, hreach₁.trans hreach, hread, hnil⟩
    · have hne : some h ≠ some k := fun he => hk (Option.some.inj he).symm
      obtain ⟨y₁, hreach₁, hexpects, hready, hholds⟩ :=
        reaches_of_heartbeat_first frames v x.expects x.holds hq hne served
      have hmem : h ∈ y₁.reactor.ready := by
        rw [hready]
        exact (List.mem_cons.mp (hq ▸ x.ready)).resolve_left (Ne.symm hk)
      obtain ⟨y', input, total, hreach, hread, hnil⟩ := ih ⟨hexpects, hmem, hholds⟩ (served + 1) hready
      exact ⟨y', input, total, hreach₁.trans hreach, hread, hnil⟩

/-! ## The loop -/

theorem step_driver_end (h : host.stopped y.outside = true) (ticks : Nat) :
    step host ⟨y, .driver ticks none, frames⟩ =
      some ⟨host.report (Driver.endNotice ticks y.reactor.counters) y, .answer (.ok ticks), frames⟩ := by
  unfold step stepDriver
  dsimp only
  rw [if_pos h]
  rfl

theorem step_driver_tick (h : host.stopped y.outside = false) {y' : System Terminal Unit}
    (hselect : host.select y = (.ok (), y')) (ticks : Nat) :
    step host ⟨y, .driver ticks none, frames⟩ =
      some ⟨y', .drain 0, .driver ticks none :: frames⟩ := by
  unfold step stepDriver
  dsimp only
  rw [if_neg (by simp [h]), if_neg (by simp [isLimit]), beginTick, hselect]

/-- **The loop ends after the tick by which the session is stopped**, with one read in each tick. -/
theorem reaches_of_driver (v : host.Supplies memory period number) {input : Option Handle}
    (x : y.HasRead number input s pieces) (hready : y.reactor.ready = [])
    (hend : (s.receiveAll memory pieces).2.stopped = true) (ticks : Nat) :
    ∃ y', Reaches host ⟨y, .driver ticks none, frames⟩
        ⟨y', .answer (.ok (ticks + (s.receiveAll memory pieces).1)), frames⟩ ∧
      y'.outside.session.quiet = (s.receiveAll memory pieces).2.quiet := by
  induction pieces generalizing s y input ticks with
  | nil =>
    have hstopped : host.stopped y.outside = true := by rw [v.stopped, x.holds.stopped, ← hend]; rfl
    exact ⟨_, .step (step_driver_end _ hstopped ticks) (.refl _ _), (v.report x.holds _).session⟩
  | cons piece left ih =>
    by_cases hstop : s.stopped = true
    · have hstopped : host.stopped y.outside = true := by rw [v.stopped, x.holds.stopped, hstop]
      rw [Session.receiveAll_of_stopped memory hstop]
      exact ⟨_, .step (step_driver_end _ hstopped ticks) (.refl _ _), (v.report x.holds _).session⟩
    · have hgoes : host.stopped y.outside = false := by
        rw [v.stopped, x.holds.stopped, eq_false_of_ne_true hstop]
      obtain ⟨h, rfl⟩ : ∃ h, input = some h := by
        rw [← Option.isSome_iff_exists, x.armed, eq_false_of_ne_true hstop]
        rfl
      have hall : s.receiveAll memory (piece :: left) =
          (((s.receive memory piece).receiveAll memory left).1 + 1,
            ((s.receive memory piece).receiveAll memory left).2) := by
        rw [Session.receiveAll, if_neg hstop]
      rw [hall] at hend ⊢
      obtain ⟨y₁, hselect, hexpects, hmem, hholds⟩ := v.select x.expects x.holds (List.cons_ne_nil _ _)
      obtain ⟨y₂, input', total, htick, hread, hnil⟩ := reaches_of_willRead
        (.driver ticks none :: frames) v ⟨hexpects, hmem h rfl, hholds⟩ 0
      have hreported : (host.report (Driver.tickNotice ticks (.ok total)) y₂).HasRead number input'
          (s.receive memory piece) left :=
        ⟨hread.expects, hread.waits, hread.armed, v.report hread.holds _⟩
      obtain ⟨y', hrest, hsession⟩ := ih hreported hnil hend (ticks + 1)
      refine ⟨y', .step (step_driver_tick _ hgoes hselect ticks) (htick.trans (.step rfl ?_)), hsession⟩
      rw [Nat.add_assoc, Nat.add_comm 1] at hrest
      exact hrest

/-! ## The program -/

/-- The heartbeat is registered beside the input, or turned off. -/
theorem reaches_of_withHeartbeat (v : host.Supplies memory period number) {input : Option Handle}
    (x : y.reactor.Expects number input 1) (hh : y.outside.Holds s pieces) (settings : DriverSettings)
    (next : Terminal.Play) :
    ∃ y', Reaches host ⟨y, .program (Console.withHeartbeat settings next), frames⟩
        ⟨y', .program next, frames⟩ ∧
      y'.reactor.Expects number input 2 ∧ y'.reactor.ready = y.reactor.ready ∧
      y'.outside.Holds s pieces := by
  unfold Console.withHeartbeat
  split
  · exact ⟨y, .refl _ _, x.mono (by decide), rfl, hh⟩
  · obtain ⟨h, g, due, y', hreg, harms, hgrows, hholds⟩ := v.register x (by decide) hh
      { descriptor := .timer, callback := Terminal.heartbeatCallback, arg := (), interest := .none
        timeout := .after settings.heartbeat }
    exact ⟨y', .step (step_register _ hreg _) (.refl _ _), x.arms_heartbeat harms hgrows rfl, harms.ready,
      hholds⟩

/-- What a console does when its loop has ended. -/
def afterLoop : Except ReactorError Nat → Terminal.Play
  | .error e => .act (Terminal.fail (.reactor e)) .done
  | .ok ticks => Console.leave ticks

/-- The program of a console registers what it needs, and starts its loop. -/
theorem reaches_of_start (v : host.Supplies memory period number) (hy : y.reactor.Initial)
    (hh : y.outside.Holds s pieces) (hs : s.stopped = false) {settings : DriverSettings}
    (hunlimited : settings.maxTicks = none) :
    ∃ y' input, Reaches host (start y (Console.program settings number))
        ⟨y', .driver 0 none, [.caller afterLoop]⟩ ∧
      y'.HasRead number input s pieces ∧ y'.reactor.ready = [] := by
  have hnothing : y.reactor.Expects number none 0 := .of_initial hy
  obtain ⟨h, g, due, y₁, hreg, harms, hgrows, hholds₁⟩ := v.register hnothing (by decide) hh
    { descriptor := .fd number, callback := Terminal.inputCallback, arg := (), interest := .read
      timeout := .infinite }
  obtain ⟨y₂, hbeat, hexpects, hready, hholds₂⟩ := reaches_of_withHeartbeat [] v
    (hnothing.arms_input harms hgrows rfl rfl rfl) hholds₁ settings
    (.drive none afterLoop)
  have hnil : y₂.reactor.ready = [] := by
    rw [hready, harms.ready, Reactor.ready_of_initial hy]
  have hdrive : Reaches host ⟨y₂, .program (.drive none afterLoop), []⟩
      ⟨host.report (Driver.startNotice none) y₂, .driver 0 none, [.caller afterLoop]⟩ :=
    .step rfl (.refl _ _)
  refine ⟨_, some h, .step (step_register _ hreg _) (.trans ?_ hdrive),
    ⟨hexpects, ?_, by rw [hs]; rfl, v.report hholds₂ _⟩, hnil⟩
  · rw [hunlimited]
    exact hbeat
  · intro k _ hmem
    rw [show (host.report (Driver.startNotice none) y₂).reactor.ready = [] from hnil] at hmem
    cases hmem

/-- A console takes leave of its loop and comes to its end. -/
theorem reaches_of_leave (host : Host Terminal Unit) (y : System Terminal Unit) (ticks : Nat) :
    ∃ y', Reaches host ⟨y, .program (Console.leave ticks), []⟩ ⟨y', .program .done, []⟩ ∧
      y'.outside.session.quiet = y.outside.session.quiet := by
  refine ⟨_, .step rfl (.step rfl (.step rfl (.refl _ _))), ?_⟩
  exact (Session.quiet_sayNotices _ _).trans
    ((Session.quiet_sayNotice _ _).trans (Session.quiet_sayNotice _ _))

end Machine

end EventLoop
