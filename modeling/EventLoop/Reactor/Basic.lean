import EventLoop.Counters
import EventLoop.Events
import EventLoop.Poll
import EventLoop.Reactor.Error
import EventLoop.Settings.Basic
import EventLoop.Time.Text

/-!
# The reactor

A reactor keeps notifications: a callback with an argument, to be invoked when something it waits for
happens on its descriptor, or when it is due. Notifications on one descriptor form a group, in the order of
their registration; the groups stand in the order of their creation and are never empty. A notification
that a tick has selected stands in the ready queue instead, until it is dispatched.

Notifications and groups live in pools and are known by handles.

* `Reactor.arm` takes a notification on, `Reactor.cancel` withdraws one that still waits or stands in the
  ready queue.
* `Reactor.lookup` finds the first notification of a descriptor with a given callback.
* `Reactor.Status` is what can be seen from outside.

Reading the clock, waiting and invoking callbacks are no part of this state; see the modules on ticks and on
the machine.
-/

namespace EventLoop

/-! ## Notifications and groups -/

/-- A callback. Two callbacks are the same exactly when their identities are. -/
structure Callback where
  identity : Nat
  deriving DecidableEq, Inhabited, Repr

/-- Where a notification stands. -/
inductive Place where
  | spare
  | group (handle : Handle)
  | ready
  deriving DecidableEq

/-- A callback that waits to be invoked. -/
structure Notification (α : Type) where
  descriptor : Descriptor
  interest : Events
  /-- The instant from which on it is overdue; none for never. -/
  due : Option Instant
  /-- Why it was selected; none of the events before that. -/
  triggered : Events
  place : Place
  /-- The callback and its argument, while there is something to invoke. -/
  payload : Option (Callback × α)

namespace Notification

variable {α : Type}

/-- A notification that is not in use. -/
def blank : Notification α :=
  { descriptor := .timer, interest := .none, due := none, triggered := .none, place := .spare
    payload := none }

instance : Poolable (Notification α) where
  fresh := blank
  recycle n := { (blank : Notification α) with descriptor := n.descriptor }
  slotBytes := 104

end Notification

/-- The notifications that wait on one descriptor. -/
structure Group where
  descriptor : Descriptor
  /-- In the order of registration. -/
  pending : List Handle

namespace Group

/-- A group that is not in use. -/
def blank : Group := { descriptor := .timer, pending := [] }

instance : Poolable Group where
  fresh := blank
  recycle g := { g with pending := [] }
  slotBytes := 48

end Group

/-- What is asked of a reactor at a registration. -/
structure Request (α : Type) where
  descriptor : Descriptor
  callback : Callback
  arg : α
  interest : Events
  timeout : Timeout

/-- What a callback is given. -/
structure Event (α : Type) where
  descriptor : Descriptor
  /-- The part of the interest that came about, or that the notification was overdue. -/
  triggered : Events
  arg : α
  callback : Callback

namespace Event

variable {α : Type}

/-- The request to be notified again, with the same callback and argument on the same descriptor. -/
def again (e : Event α) (interest : Events) (timeout : Timeout) : Request α :=
  { descriptor := e.descriptor, callback := e.callback, arg := e.arg, interest, timeout }

/-- How a message shows an event. -/
def text (e : Event α) : String :=
  "Event \x7b descriptor: " ++ e.descriptor.detail ++ ", triggered: " ++ e.triggered.text ++ ", .. \x7d"

end Event

/-! ## The state -/

/-- The state of a reactor. -/
structure Reactor (α : Type) where
  groups : Pool Group
  /-- The groups that hold notifications, in the order of their creation. -/
  active : List Handle
  notifications : Pool (Notification α)
  /-- The selected notifications that were not dispatched yet, first in, first out. -/
  ready : List Handle
  /-- The shortest finite wait. -/
  floor : Span
  counters : Counters

namespace Reactor

variable {α : Type}

/-- A reactor without notifications. -/
def empty (floor : Span) : Reactor α :=
  { groups := .empty, active := [], notifications := .empty, ready := [], floor, counters := {} }

instance : Inhabited (Reactor α) := ⟨empty defaultWaitFloor⟩

/-- A reactor without notifications whose pools hold what the settings ask for. -/
def ofSettings (memory : Memory) (settings : ReactorSettings) : Except ReactorError (Reactor α) :=
  match Pool.ofCapacity memory settings.groups.toNat,
      Pool.ofCapacity memory settings.notifications.toNat with
  | .ok groups, .ok notifications =>
    if memory.grants .groups (settings.groups.toNat * Handle.bytes) &&
        memory.grants .ready (settings.notifications.toNat * Handle.bytes) then
      .ok { (empty settings.floor : Reactor α) with groups, notifications }
    else .error .outOfMemory
  | _, _ => .error .outOfMemory

/-! ## Registration -/

/-- The active group of a descriptor. -/
def findGroup (r : Reactor α) (d : Descriptor) : Option Handle :=
  r.active.find? fun g => (r.groups.get? g).any fun group => group.descriptor = d

/-- Adds a notification at the end of a group. -/
def attach (memory : Memory) (r : Reactor α) (g : Handle) (request : Request α) (due : Option Instant) :
    Except ReactorError (Handle × Reactor α) :=
  match r.groups.get? g with
  | none => .error .stale
  | some group =>
    if memory.grants .pending ((group.pending.length + 1) * Handle.bytes) then
      match r.notifications.acquire memory with
      | .error e => .error (.ofPool e)
      | .ok (h, notifications) =>
        .ok (h,
          { r with
            notifications := notifications.modify h fun n =>
              { n with
                descriptor := request.descriptor
                interest := request.interest &&& .waitable
                due
                place := .group g
                payload := some (request.callback, request.arg) }
            groups := r.groups.modify g fun group => { group with pending := group.pending ++ [h] } })
    else .error .outOfMemory

/-- Takes a notification on, given the instant at which it is due. A new group for its descriptor is kept
only if all goes well. -/
def arm (memory : Memory) (r : Reactor α) (request : Request α) (due : Option Instant) :
    Except ReactorError Handle × Reactor α :=
  match r.findGroup request.descriptor with
  | some g =>
    match r.attach memory g request due with
    | .ok (h, r) => (.ok h, { r with counters := r.counters.register })
    | .error e => (.error e, r)
  | none =>
    if memory.grants .groups ((r.active.length + 1) * Handle.bytes) then
      match r.groups.acquire memory with
      | .error e => (.error (.ofPool e), r)
      | .ok (g, groups) =>
        let opened :=
          { r with groups := groups.modify g fun group => { group with descriptor := request.descriptor } }
        match opened.attach memory g request due with
        | .ok (h, r) => (.ok h, { r with active := r.active ++ [g], counters := r.counters.register })
        | .error e => (.error e, { opened with groups := opened.groups.discard g })
    else (.error .outOfMemory, r)

/-! ## Withdrawal -/

/-- Takes a notification out of a group, and retires the group if that was its last. -/
def detach (r : Reactor α) (g h : Handle) : Reactor α :=
  match r.groups.get? g with
  | none => r
  | some group =>
    let rest := group.pending.filter (· ≠ h)
    let groups := r.groups.modify g fun group => { group with pending := rest }
    if rest.isEmpty then { r with groups := groups.discard g, active := r.active.filter (· ≠ g) }
    else { r with groups }

/-- Withdraws a notification that has not been dispatched. -/
def cancel (r : Reactor α) (h : Handle) : Except ReactorError Unit × Reactor α :=
  let finish (r : Reactor α) : Except ReactorError Unit × Reactor α :=
    (.ok (), { r with notifications := r.notifications.discard h, counters := r.counters.cancel })
  match r.notifications.get? h with
  | none => (.error .stale, r)
  | some n =>
    match n.place with
    | .group g => finish (r.detach g h)
    | .ready => finish { r with ready := r.ready.erase h }
    | .spare => (.error .stale, r)

/-! ## Looking -/

/-- Does the handle name a notification that is still to be dispatched? -/
def isPending (r : Reactor α) (h : Handle) : Bool := r.notifications.contains h

/-- Does the handle name a notification with this callback? -/
def armedWith (r : Reactor α) (callback : Callback) (h : Handle) : Bool :=
  ((r.notifications.get? h).bind Notification.payload).any fun p => p.1 = callback

/-- The first notification that waits on a descriptor and has the given callback. -/
def lookup (r : Reactor α) (d : Descriptor) (callback : Callback) : Option Handle := do
  let group ← r.groups.get? (← r.findGroup d)
  group.pending.find? (r.armedWith callback)

/-- The number of notifications that are still to be dispatched. -/
def pending (r : Reactor α) : Nat := r.notifications.activeCount

/-- What can be seen of a reactor from outside. -/
structure Status where
  activeGroups : Nat
  spareGroups : Nat
  allocatedGroups : Nat
  pending : Nat
  spareNotifications : Nat
  allocatedNotifications : Nat
  ready : Nat
  floor : Span
  counters : Counters
  deriving DecidableEq

/-- The present status. -/
def status (r : Reactor α) : Status :=
  { activeGroups := r.active.length
    spareGroups := r.groups.spareCount
    allocatedGroups := r.groups.capacity
    pending := r.pending
    spareNotifications := r.notifications.spareCount
    allocatedNotifications := r.notifications.capacity
    ready := r.ready.length
    floor := r.floor
    counters := r.counters }

/-- How a message shows a reactor. -/
def Status.text (s : Status) : String :=
  "Reactor \x7b active_groups: " ++ Numeral.natText s.activeGroups ++
    ", spare_groups: " ++ Numeral.natText s.spareGroups ++
    ", pending: " ++ Numeral.natText s.pending ++
    ", spare_notifications: " ++ Numeral.natText s.spareNotifications ++
    ", ready: " ++ Numeral.natText s.ready ++
    ", busy_wait_floor: " ++ s.floor.text ++ " \x7d"

end Reactor

end EventLoop
