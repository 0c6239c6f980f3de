/-!
# Spans of time

A span is a number of whole seconds and of nanoseconds below one second, both held in machine words. The
arithmetic saturates: a sum beyond the longest span is the longest span, and a difference below zero is
zero. No word ever wraps: each sum is tested before it is taken.
-/

namespace EventLoop

/-- Nanoseconds in one second. -/
def nanosPerSec : UInt32 := 1000000000

/-- A length of time. -/
structure Span where
  secs : UInt64
  nanos : UInt32
  nanos_lt : nanos < nanosPerSec := by decide
  deriving DecidableEq

namespace Span

/-- The empty span. -/
def zero : Span := { secs := 0, nanos := 0 }

/-- The longest span. -/
def longest : Span := { secs := 18446744073709551615, nanos := 999999999 }

instance : Inhabited Span := ⟨zero⟩

/-- All nanoseconds of the span. -/
def toNanos (d : Span) : Nat := d.secs.toNat * 1000000000 + d.nanos.toNat

/-! ## Order -/

/-- Is the first span shorter, or equally long? -/
def le (a b : Span) : Bool := a.secs < b.secs || (a.secs = b.secs && a.nanos ≤ b.nanos)

/-- Is the first span shorter? -/
def lt (a b : Span) : Bool := a.secs < b.secs || (a.secs = b.secs && a.nanos < b.nanos)

/-- The longer of two spans. -/
def max (a b : Span) : Span := if a.le b then b else a

/-- How the first span compares with the second. -/
def order (a b : Span) : Ordering := if a.lt b then .lt else if a = b then .eq else .gt

/-! ## Construction -/

theorem mod_nanosPerSec_lt (n : UInt32) : n % nanosPerSec < nanosPerSec := by
  rw [UInt32.lt_iff_toNat_lt, UInt32.toNat_mod]
  exact Nat.mod_lt _ (by decide)

/-- Whole seconds. -/
def ofSecs (secs : UInt64) : Span := { secs, nanos := 0 }

theorem microNanos_lt (micros : UInt64) :
    (micros % 1000000).toUInt32 * 1000 < nanosPerSec := by
  rw [UInt32.lt_iff_toNat_lt, UInt32.toNat_mul, UInt64.toNat_toUInt32, UInt64.toNat_mod]
  have h : micros.toNat % 1000000 < 1000000 := Nat.mod_lt _ (by decide)
  show micros.toNat % 1000000 % 4294967296 * 1000 % 4294967296 < 1000000000
  rw [Nat.mod_eq_of_lt (a := micros.toNat % 1000000) (by omega)]
  rw [Nat.mod_eq_of_lt (by omega)]
  omega

/-- Microseconds. -/
def ofMicros (micros : UInt64) : Span :=
  { secs := micros / 1000000
    nanos := (micros % 1000000).toUInt32 * 1000
    nanos_lt := microNanos_lt micros }

theorem ofNat_mod_lt (n : Nat) : UInt32.ofNat (n % 1000000000) < nanosPerSec := by
  rw [UInt32.lt_iff_toNat_lt, UInt32.toNat_ofNat']
  have h : n % 1000000000 < 1000000000 := Nat.mod_lt _ (by decide)
  rw [Nat.mod_eq_of_lt (by omega)]
  exact h

/-- Nanoseconds, taken modulo the longest span and one. -/
def ofNanos (n : Nat) : Span :=
  { secs := UInt64.ofNat (n / 1000000000)
    nanos := UInt32.ofNat (n % 1000000000)
    nanos_lt := ofNat_mod_lt n }

/-! ## Sum and difference -/

/-- The sum of two words, unless it would wrap. -/
def addSecs? (a b : UInt64) : Option UInt64 :=
  if a.toNat + b.toNat < 18446744073709551616 then some (a + b) else none

theorem carry_lt {a b : UInt32} (ha : a < nanosPerSec) (hb : b < nanosPerSec)
    (h : nanosPerSec ≤ a + b) : a + b - nanosPerSec < nanosPerSec := by
  rw [UInt32.lt_iff_toNat_lt] at ha hb ⊢
  rw [UInt32.le_iff_toNat_le] at h
  rw [UInt32.toNat_sub_of_le _ _ (UInt32.le_iff_toNat_le.mpr h)]
  rw [UInt32.toNat_add] at h ⊢
  have : nanosPerSec.toNat = 1000000000 := rfl
  omega

theorem borrow_lt {a b : UInt32} (hb : b < nanosPerSec) (h : a < b) :
    nanosPerSec + a - b < nanosPerSec := by
  rw [UInt32.lt_iff_toNat_lt] at hb h ⊢
  have hn : nanosPerSec.toNat = 1000000000 := rfl
  have hs : (nanosPerSec + a).toNat = nanosPerSec.toNat + a.toNat := by
    rw [UInt32.toNat_add]
    omega
  rw [UInt32.toNat_sub_of_le _ _ (by rw [UInt32.le_iff_toNat_le, hs]; omega), hs]
  omega

theorem sub_nanos_lt {a b : UInt32} (ha : a < nanosPerSec) (h : ¬a < b) :
    a - b < nanosPerSec := by
  rw [UInt32.lt_iff_toNat_lt] at ha h ⊢
  rw [UInt32.toNat_sub_of_le _ _ (by rw [UInt32.le_iff_toNat_le]; omega)]
  omega

/-- The sum, at most the longest span. -/
def add (a b : Span) : Span :=
  match addSecs? a.secs b.secs with
  | none => longest
  | some secs =>
    if h : nanosPerSec ≤ a.nanos + b.nanos then
      match addSecs? secs 1 with
      | none => longest
      | some secs =>
        { secs, nanos := a.nanos + b.nanos - nanosPerSec
          nanos_lt := carry_lt a.nanos_lt b.nanos_lt h }
    else
      { secs, nanos := a.nanos + b.nanos, nanos_lt := UInt32.not_le.mp h }

/-- The difference, at least zero. -/
def sub (a b : Span) : Span :=
  if a.le b then zero
  else if h : a.nanos < b.nanos then
    { secs := a.secs - b.secs - 1, nanos := nanosPerSec + a.nanos - b.nanos
      nanos_lt := borrow_lt b.nanos_lt h }
  else
    { secs := a.secs - b.secs, nanos := a.nanos - b.nanos
      nanos_lt := sub_nanos_lt a.nanos_lt h }

instance : Add Span := ⟨add⟩
instance : Sub Span := ⟨sub⟩

end Span

end EventLoop
