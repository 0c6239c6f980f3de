import EventLoop.Reactor.Error
import EventLoop.Settings.Basic
import EventLoop.Store.Error

/-!
# All errors

What a caller of the whole library may meet: an error of one of its parts, or a fault of the system.
-/

namespace EventLoop

/-- An error of any part of the library. -/
inductive Error where
  | reactor (e : ReactorError)
  | store (e : StoreError)
  | settings (e : SettingsError)
  | pool (e : PoolError)
  | system (fault : Fault)
  deriving DecidableEq

/-- The message of an error, which names the part it comes from. -/
def Error.message : Error → String
  | reactor e => "Reactor error: " ++ e.message
  | store e => "Store error: " ++ e.message
  | settings e => "Settings error: " ++ e.message
  | pool e => "Pool error: " ++ e.message
  | system fault => "IO error: " ++ fault.text

end EventLoop
