import EventLoop.Time.Span

/-!
# Instants

An instant is a point on a monotonic clock, told by the span since the clock's origin. Adding a span
stops at the latest instant, and the span since a later instant is zero.
-/

namespace EventLoop

/-- A point on the clock. -/
structure Instant where
  sinceOrigin : Span
  deriving DecidableEq

namespace Instant

/-- The clock's origin. -/
def origin : Instant := ⟨.zero⟩

/-- The latest instant. -/
def latest : Instant := ⟨.longest⟩

instance : Inhabited Instant := ⟨origin⟩

/-- All nanoseconds since the origin. -/
def toNanos (t : Instant) : Nat := t.sinceOrigin.toNanos

/-- The instant after a span, at most the latest one. -/
def after (t : Instant) (d : Span) : Instant := ⟨t.sinceOrigin + d⟩

/-- The span from an earlier instant, zero if that one is not earlier. -/
def since (t earlier : Instant) : Span := t.sinceOrigin - earlier.sinceOrigin

/-- Is the first instant earlier, or the same? -/
def le (a b : Instant) : Bool := a.sinceOrigin.le b.sinceOrigin

/-- The earlier of two instants. -/
def min (a b : Instant) : Instant := if a.le b then a else b

/-- How the first instant compares with the second. -/
def order (a b : Instant) : Ordering := a.sinceOrigin.order b.sinceOrigin

instance : HAdd Instant Span Instant := ⟨after⟩

/-- An instant from seconds and any number of nanoseconds. What exceeds a second is carried; when the
seconds are used up the carry is lost and the remainder stays. -/
def ofParts (secs : UInt64) (nanos : UInt32) : Instant :=
  { sinceOrigin :=
      { secs := (Span.addSecs? secs (nanos / nanosPerSec).toUInt64).getD 18446744073709551615
        nanos := nanos % nanosPerSec
        nanos_lt := Span.mod_nanosPerSec_lt nanos } }

/-- An instant from seconds and microseconds. -/
def ofMicros (secs micros : UInt64) : Instant :=
  origin + Span.ofSecs secs + Span.ofMicros micros

end Instant

end EventLoop
