import EventLoop.Pool

/-!
# Buffers of bytes

The plainest object worth pooling: bytes that are cleared on release, with a count of the releases.
-/

namespace EventLoop

/-- Bytes, and how often their buffer was used before. -/
structure Buffer where
  data : List UInt8 := []
  reuses : UInt64 := 0
  deriving DecidableEq, Inhabited

namespace Buffer

instance : Poolable Buffer where
  fresh := {}
  recycle b := { data := [], reuses := b.reuses + 1 }
  slotBytes := 48

/-- The buffer with more bytes at its end. -/
def append (b : Buffer) (bytes : List UInt8) : Buffer := { b with data := b.data ++ bytes }

end Buffer

end EventLoop
