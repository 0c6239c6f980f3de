import EventLoop.Reactor.Basic

/-!
# What a tick does to the reactor

A tick asks which descriptors to wait on and until when (`Reactor.pollSet`, `Reactor.earliest`), and after
the wait selects the notifications that something happened for or that are due (`Reactor.collect`). They are
then taken off the ready queue one by one (`Reactor.takeReady`).
-/

namespace EventLoop.Reactor

variable {α : Type}

/-! ## Before the wait -/

/-- The notifications that wait in a group. -/
def members (r : Reactor α) (g : Handle) : List (Notification α) :=
  match r.groups.get? g with
  | none => []
  | some group => group.pending.filterMap r.notifications.get?

/-- All that the notifications of a group wait for. -/
def interestOf (r : Reactor α) (g : Handle) : Events :=
  (r.members g).foldl (fun e n => e ||| n.interest) .none

/-- The earlier of two instants, either of which may be missing. -/
def sooner : Option Instant → Option Instant → Option Instant
  | none, b => b
  | a, none => a
  | some a, some b => some (a.min b)

/-- The earliest instant at which a notification of a group is due. -/
def dueOf (r : Reactor α) (g : Handle) : Option Instant :=
  (r.members g).foldl (fun due n => sooner due n.due) none

/-- The earliest instant at which a notification of any group is due. -/
def earliest (r : Reactor α) : Option Instant :=
  r.active.foldl (fun due g => sooner due (r.dueOf g)) none

/-- What the wait is asked about a group: nothing for the timer's group and for one without interest. -/
def entryOf (r : Reactor α) (g : Handle) : Option PollEntry := do
  let number ← (← r.groups.get? g).descriptor.number?
  let interest := r.interestOf g
  if interest.isEmpty then none else some (.ofInterest number interest)

/-- What the wait is asked, in the order of the groups. -/
def pollSet (r : Reactor α) : List PollEntry := r.active.filterMap r.entryOf

/-! ## After the wait -/

/-- The events that came about for each group. The reported conditions belong to the groups that the wait
was asked about, in order. -/
def firedOf (r : Reactor α) : List Handle → List Conditions → List (Handle × Events)
  | [], _ => []
  | g :: rest, reported =>
    match r.entryOf g, reported with
    | some _, c :: reported => (g, c.fired) :: firedOf r rest reported
    | some _, [] => (g, .none) :: firedOf r rest []
    | none, reported => (g, .none) :: firedOf r rest reported

/-- Why a notification is selected, given what came about on its descriptor and the present instant: the
part of its interest that came about; failing that, that it is due. None of the events if it is not
selected. -/
def trigger (fired : Events) (now : Instant) (n : Notification α) : Events :=
  let met := fired &&& n.interest
  if met.isEmpty then if n.due.any (·.le now) then .timeout else .none else met

/-- Goes through the notifications of one group: those that stay, those that are selected, and the pool in
which the selected ones are marked. -/
def sift (fired : Events) (now : Instant) :
    List Handle → Pool (Notification α) → List Handle × List Handle × Pool (Notification α)
  | [], pool => ([], [], pool)
  | h :: rest, pool =>
    match pool.get? h with
    | none => sift fired now rest pool
    | some n =>
      let triggered := trigger fired now n
      if triggered.isEmpty then
        let (kept, selected, pool) := sift fired now rest pool
        (h :: kept, selected, pool)
      else
        let marked := pool.modify h fun n => { n with triggered, place := .ready }
        let (kept, selected, pool) := sift fired now rest marked
        (kept, h :: selected, pool)

/-- Moves the selected notifications of one group to the ready queue. -/
def selectIn (now : Instant) (r : Reactor α) (g : Handle) (fired : Events) : Reactor α :=
  match r.groups.get? g with
  | none => r
  | some group =>
    let (kept, selected, notifications) := sift fired now group.pending r.notifications
    { r with
      groups := r.groups.modify g fun group => { group with pending := kept }
      notifications
      ready := r.ready ++ selected }

/-- Retires the groups without notifications: the groups that remain active, and the pool. -/
def retire : List Handle → Pool Group → List Handle × Pool Group
  | [], pool => ([], pool)
  | g :: rest, pool =>
    if (pool.get? g).all fun group => group.pending.isEmpty then retire rest (pool.discard g)
    else
      let (active, pool) := retire rest pool
      (g :: active, pool)

/-- Moves every selected notification to the ready queue: group after group, in each in the order of
registration. Groups left without notifications are retired. -/
def collect (r : Reactor α) (reported : List Conditions) (now : Instant) : Reactor α :=
  let selected := (r.firedOf r.active reported).foldl (fun s p => selectIn now s p.1 p.2) r
  let (active, groups) := retire selected.active selected.groups
  { selected with active, groups }

/-! ## Dispatch -/

/-- Takes the first notification off the ready queue: none if the queue is empty, otherwise the event to
invoke its callback with. The notification is given back to the pool before the callback runs. -/
def takeReady (r : Reactor α) : Option (Option (Event α) × Reactor α) :=
  match r.ready with
  | [] => none
  | h :: rest =>
    match r.notifications.release h with
    | none => some (none, { r with ready := rest })
    | some (n, notifications) =>
      match n.payload with
      | none => some (none, { r with ready := rest, notifications })
      | some (callback, arg) =>
        some
          (some { descriptor := n.descriptor, triggered := n.triggered, arg, callback },
            { r with
              ready := rest
              notifications
              counters :=
                r.counters.dispatch (if n.triggered = .timeout then .deadline else .readiness) })

end EventLoop.Reactor
