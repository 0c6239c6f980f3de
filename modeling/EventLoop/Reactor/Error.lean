import EventLoop.Fault
import EventLoop.Pool

/-!
# What can go wrong in a reactor
-/

namespace EventLoop

/-- Why an operation of a reactor fails. -/
inductive ReactorError where
  /-- The clock could not be read. -/
  | clock (fault : Fault)
  /-- The wait for readiness failed. -/
  | wait (fault : Fault)
  /-- A signal cut the wait short. -/
  | interrupted
  | outOfMemory
  /-- The handle's notification was cancelled or dispatched. -/
  | stale
  deriving DecidableEq

namespace ReactorError

/-- The message of a reactor error. -/
def message : ReactorError → String
  | clock fault => "monotonic clock read failed: " ++ fault.text
  | wait fault => "readiness wait failed: " ++ fault.text
  | interrupted => "readiness wait interrupted"
  | outOfMemory => "out of memory"
  | stale => "event handle is no longer pending"

/-- The reactor's view of a pool that cannot grow. -/
def ofPool : PoolError → ReactorError
  | .outOfMemory => outOfMemory

/-- The reactor's view of a failed wait. -/
def ofWait (fault : Fault) : ReactorError := if fault.interrupted then interrupted else wait fault

end ReactorError

end EventLoop
