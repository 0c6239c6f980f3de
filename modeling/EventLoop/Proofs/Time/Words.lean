import EventLoop.Proofs.Time.Nanos

/-!
# Sums and differences that never wrap

A span is held in two machine words. Here the sum and the difference are taken once more, word by word, with every
step refused that would wrap: the nanoseconds before the carry is taken out of them, the seconds before and after it
is put in, and each word that is borrowed from.

* `Words.add?_words`, `Words.since?_words` — on spans no step is refused, and the words are those of `Span.add` and
  `Span.sub`.
-/

namespace EventLoop

/-- Seconds and nanoseconds, whether or not the nanoseconds are below one second. -/
structure Words where
  secs : UInt64
  nanos : UInt32
  deriving DecidableEq

namespace Span

/-- The words of a span. -/
def words (d : Span) : Words := { secs := d.secs, nanos := d.nanos }

theorem addSecs?_zero (secs : UInt64) : addSecs? secs 0 = some secs := by
  unfold addSecs?
  rw [if_pos, UInt64.add_zero]
  exact secs.toNat_lt_size

end Span

namespace Words

/-! ## One word -/

/-- The sum of two short words, unless it would wrap. -/
def addNanos? (a b : UInt32) : Option UInt32 :=
  if a.toNat + b.toNat < 4294967296 then some (a + b) else none

/-- The difference of two short words, unless it would wrap. -/
def subNanos? (a b : UInt32) : Option UInt32 := if b ≤ a then some (a - b) else none

/-- The difference of two words, unless it would wrap. -/
def subSecs? (a b : UInt64) : Option UInt64 := if b ≤ a then some (a - b) else none

theorem addNanos?_of_le {a b : UInt32} (ha : a ≤ nanosPerSec) (hb : b ≤ nanosPerSec) :
    addNanos? a b = some (a + b) := by
  rw [UInt32.le_iff_toNat_le] at ha hb
  have hn : nanosPerSec.toNat = 1000000000 := rfl
  exact if_pos (by omega)

/-! ## Two words -/

/-- Nanoseconds with what exceeds a second carried into the seconds, unless the seconds would wrap. -/
def carried? (secs : UInt64) (nanos : UInt32) : Option Words :=
  if nanos < nanosPerSec then some { secs, nanos }
  else (Span.addSecs? secs (nanos / nanosPerSec).toUInt64).map fun secs => { secs, nanos := nanos % nanosPerSec }

/-- The carry of a sum of nanoseconds, and what it leaves. -/
def carry? (nanos : UInt32) : Option (UInt64 × UInt32) :=
  if nanosPerSec ≤ nanos then (subNanos? nanos nanosPerSec).map fun rest => (1, rest) else some (0, nanos)

theorem carry?_of_le {nanos : UInt32} (h : nanosPerSec ≤ nanos) : carry? nanos = some (1, nanos - nanosPerSec) := by
  rw [carry?, if_pos h, subNanos?, if_pos h, Option.map_some]

theorem carry?_of_lt {nanos : UInt32} (h : ¬nanosPerSec ≤ nanos) : carry? nanos = some (0, nanos) := if_neg h

theorem carried?_of_lt {secs : UInt64} {nanos : UInt32} (h : nanos < nanosPerSec) :
    carried? secs nanos = some { secs, nanos } := if_pos h

/-- The sum, at most the longest span. Seconds that would wrap are the one thing that is not refused. -/
def add? (a b : Words) : Option Words :=
  (addNanos? a.nanos b.nanos).bind fun nanos =>
    (carry? nanos).map fun (carry, nanos) =>
      match (Span.addSecs? a.secs b.secs).bind fun secs => Span.addSecs? secs carry with
      | some secs => { secs, nanos }
      | none => Span.longest.words

/-- Are the first words no more than the second, the seconds compared before the nanoseconds? -/
def le (a b : Words) : Bool := a.secs < b.secs || (a.secs = b.secs && a.nanos ≤ b.nanos)

/-- The difference, at least zero. -/
def since? (a b : Words) : Option Words :=
  if a.le b then some Span.zero.words
  else if a.nanos < b.nanos then
    ((subSecs? a.secs b.secs).bind fun secs => subSecs? secs 1).bind fun secs =>
      ((addNanos? nanosPerSec a.nanos).bind fun nanos => subNanos? nanos b.nanos).bind (carried? secs)
  else
    (subSecs? a.secs b.secs).bind fun secs => (subNanos? a.nanos b.nanos).bind (carried? secs)

/-- **No step of a sum of spans is refused.** -/
theorem add?_words (a b : Span) : add? a.words b.words = some (a + b).words := by
  have hsum : addNanos? a.words.nanos b.words.nanos = some (a.nanos + b.nanos) :=
    addNanos?_of_le (UInt32.le_of_lt a.nanos_lt) (UInt32.le_of_lt b.nanos_lt)
  show _ = some (Span.add a b).words
  unfold add? Span.add
  rw [hsum, Option.bind_some]
  by_cases hcarry : nanosPerSec ≤ a.nanos + b.nanos
  · rw [carry?_of_le hcarry, Option.map_some]
    dsimp only [Span.words]
    cases Span.addSecs? a.secs b.secs with
    | none => rfl
    | some secs =>
      dsimp only [Option.bind_some]
      rw [dif_pos hcarry]
      cases Span.addSecs? secs 1 with
      | none => rfl
      | some secs => rfl
  · rw [carry?_of_lt hcarry, Option.map_some]
    dsimp only [Span.words]
    cases Span.addSecs? a.secs b.secs with
    | none => rfl
    | some secs =>
      dsimp only [Option.bind_some]
      rw [Span.addSecs?_zero, dif_neg hcarry]

/-- **No step of a difference of spans is refused.** -/
theorem since?_words (a b : Span) : since? a.words b.words = some (a - b).words := by
  show _ = some (Span.sub a b).words
  unfold since? Span.sub
  by_cases hle : a.le b = true
  · rw [if_pos hle, show a.words.le b.words = true from hle, if_pos rfl]
  · have hlater : b.toNanos < a.toNanos := Nat.lt_of_not_le (mt Span.le_iff_toNanos.mpr hle)
    have hsecs : subSecs? a.words.secs b.words.secs = some (a.secs - b.secs) :=
      if_pos (Span.secs_le_of_lt hlater)
    rw [if_neg hle, if_neg (show ¬a.words.le b.words = true from hle), hsecs, Option.bind_some]
    by_cases hborrow : a.nanos < b.nanos
    · have hone : subSecs? (a.secs - b.secs) 1 = some (a.secs - b.secs - 1) :=
        if_pos (Span.one_le_secs_of_borrow hlater hborrow)
      have hsum : addNanos? nanosPerSec a.words.nanos = some (nanosPerSec + a.nanos) :=
        addNanos?_of_le UInt32.le_rfl (UInt32.le_of_lt a.nanos_lt)
      have hsub : subNanos? (nanosPerSec + a.nanos) b.words.nanos = some (nanosPerSec + a.nanos - b.nanos) :=
        if_pos (Span.nanos_le_borrowed a b)
      rw [if_pos (show a.words.nanos < b.words.nanos from hborrow), dif_pos hborrow, hone, Option.bind_some, hsum,
        Option.bind_some, hsub, Option.bind_some, carried?_of_lt (Span.borrow_lt b.nanos_lt hborrow)]
      rfl
    · have hsub : subNanos? a.words.nanos b.words.nanos = some (a.nanos - b.nanos) :=
        if_pos (UInt32.not_lt.mp hborrow)
      rw [if_neg (show ¬a.words.nanos < b.words.nanos from hborrow), dif_neg hborrow, Option.bind_some, hsub,
        Option.bind_some, carried?_of_lt (Span.sub_nanos_lt a.nanos_lt hborrow)]
      rfl

end Words

end EventLoop
