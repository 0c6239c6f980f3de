import EventLoop.Proofs.Time.Nanos

/-!
# Instants from numbers

An instant is made of seconds and microseconds, or of seconds and nanoseconds, and the numbers may be more than a clock
can show. The first way is by two sums, so it stops at the latest instant. The second way carries whole seconds out of
the nanoseconds and keeps the rest; once the seconds are used up these stop, but the rest is what it was. So it agrees
with the sums up to the latest instant only, and beyond it an instant made of more may come before one made of less.

* `Instant.toNanos_ofMicros` — seconds and microseconds stop at the latest instant.
* `Instant.toNanos_ofParts_of_le`, `Instant.toNanos_ofParts_of_lt` — seconds and nanoseconds up to it, and beyond.
* `Instant.made_of_numbers` — both ways, side by side (`Instant.Made`).
* `Instant.ofParts_turns_back` — the least numbers at which the two differ.
-/

namespace EventLoop

/-- A number of nanoseconds that fits a short word is far below the longest span. -/
theorem toNat_le_longest (nanos : UInt32) : nanos.toNat ≤ Span.longest.toNanos := by
  have hlt : nanos.toNat < 4294967296 := nanos.toNat_lt_size
  rw [Span.toNanos_longest]
  omega

namespace Instant

/-- All nanoseconds of some seconds and some nanoseconds, however many. -/
def totalNanos (secs : UInt64) (nanos : UInt32) : Nat := secs.toNat * 1000000000 + nanos.toNat

theorem toNanos_origin : origin.toNanos = 0 := rfl

/-- From the origin two sums stop where one would. -/
theorem toNanos_origin_add_add (d e : Span) :
    (origin + d + e).toNanos = Min.min (d.toNanos + e.toNanos) latest.toNanos := by
  have hd : d.toNanos ≤ latest.toNanos := d.toNanos_le_longest
  rw [toNanos_add, toNanos_add, toNanos_origin]
  omega

/-! ## Seconds and microseconds -/

/-- **Seconds and microseconds stop at the latest instant.** -/
theorem toNanos_ofMicros (secs micros : UInt64) :
    (ofMicros secs micros).toNanos =
      Min.min (secs.toNat * 1000000000 + micros.toNat * 1000) latest.toNanos := by
  unfold ofMicros
  rw [toNanos_origin_add_add, Span.toNanos_ofSecs, Span.toNanos_ofMicros]

/-! ## Seconds and nanoseconds -/

/-- The sums that make an instant of seconds and nanoseconds stop at the latest one. -/
theorem toNanos_sum (secs : UInt64) (nanos : UInt32) :
    (origin + Span.ofSecs secs + Span.ofNanos nanos.toNat).toNanos =
      Min.min (totalNanos secs nanos) latest.toNanos := by
  rw [toNanos_origin_add_add, Span.toNanos_ofSecs, Span.toNanos_ofNanos (toNat_le_longest nanos), totalNanos]

theorem toNat_carried (nanos : UInt32) :
    (nanos / nanosPerSec).toUInt64.toNat = nanos.toNat / 1000000000 := by
  rw [UInt32.toNat_toUInt64, UInt32.toNat_div]
  rfl

theorem toNanos_ofParts (secs : UInt64) (nanos : UInt32) :
    (ofParts secs nanos).toNanos =
      ((Span.addSecs? secs (nanos / nanosPerSec).toUInt64).getD 18446744073709551615).toNat * 1000000000 +
        nanos.toNat % 1000000000 := by
  show _ + (nanos % nanosPerSec).toNat = _
  rw [UInt32.toNat_mod]
  rfl

/-- **Seconds and nanoseconds are exact up to the latest instant.** -/
theorem toNanos_ofParts_of_le {secs : UInt64} {nanos : UInt32}
    (h : totalNanos secs nanos ≤ latest.toNanos) : (ofParts secs nanos).toNanos = totalNanos secs nanos := by
  rw [toNanos_latest] at h
  unfold totalNanos at h ⊢
  have hcarried := toNat_carried nanos
  obtain ⟨sum, hsum, hnat⟩ := Span.addSecs?_of_lt (a := secs) (b := (nanos / nanosPerSec).toUInt64) (by omega)
  rw [toNanos_ofParts, hsum, Option.getD_some, hnat]
  omega

/-- **Beyond it the seconds stop, and the nanoseconds are what is left of theirs.** -/
theorem toNanos_ofParts_of_lt {secs : UInt64} {nanos : UInt32}
    (h : latest.toNanos < totalNanos secs nanos) :
    (ofParts secs nanos).toNanos = 18446744073709551615 * 1000000000 + nanos.toNat % 1000000000 := by
  rw [toNanos_latest] at h
  unfold totalNanos at h
  have hcarried := toNat_carried nanos
  have hnone : Span.addSecs? secs (nanos / nanosPerSec).toUInt64 = none := Span.addSecs?_of_le (by omega)
  rw [toNanos_ofParts, hnone]
  rfl

/-- They stop at the latest instant only if what is left of them is the most that can be. -/
theorem toNanos_ofParts_eq_min_iff (secs : UInt64) (nanos : UInt32) :
    (ofParts secs nanos).toNanos = Min.min (totalNanos secs nanos) latest.toNanos ↔
      totalNanos secs nanos ≤ latest.toNanos ∨ nanos.toNat % 1000000000 = 999999999 := by
  rcases Nat.lt_or_ge latest.toNanos (totalNanos secs nanos) with hlt | hle
  · rw [toNanos_ofParts_of_lt hlt, Nat.min_eq_right (Nat.le_of_lt hlt), or_iff_right (Nat.not_le.mpr hlt),
      toNanos_latest]
    omega
  · rw [toNanos_ofParts_of_le hle, Nat.min_eq_left hle]
    exact iff_of_true rfl (Or.inl hle)

/-! ## Both ways -/

/-- The instants that are made of some seconds with some nanoseconds, and with some microseconds. -/
structure Made (secs : UInt64) (nanos : UInt32) (micros : UInt64) : Prop where
  /-- With microseconds the instant is that of the sum, or the latest one. -/
  micros : (ofMicros secs micros).toNanos =
    Min.min (secs.toNat * 1000000000 + micros.toNat * 1000) latest.toNanos
  /-- With nanoseconds it is that of the sum up to the latest one; … -/
  exact : totalNanos secs nanos ≤ latest.toNanos → (ofParts secs nanos).toNanos = totalNanos secs nanos
  /-- … beyond it the seconds stop and the nanoseconds are what is left of theirs, … -/
  beyond : latest.toNanos < totalNanos secs nanos →
    (ofParts secs nanos).toNanos = 18446744073709551615 * 1000000000 + nanos.toNat % 1000000000
  /-- … so that it stops at the latest one, as the sums from the origin do, only if that is the most that can be
  left. -/
  stops : (ofParts secs nanos).toNanos = Min.min (totalNanos secs nanos) latest.toNanos ↔
    totalNanos secs nanos ≤ latest.toNanos ∨ nanos.toNat % 1000000000 = 999999999
  sums : ofParts secs nanos = origin + Span.ofSecs secs + Span.ofNanos nanos.toNat ↔
    totalNanos secs nanos ≤ latest.toNanos ∨ nanos.toNat % 1000000000 = 999999999
  /-- No instant made of less is later, up to the latest one. -/
  monotone : ∀ secs' nanos', totalNanos secs' nanos' ≤ totalNanos secs nanos →
    totalNanos secs nanos ≤ latest.toNanos → (ofParts secs' nanos').le (ofParts secs nanos) = true

/-- **With microseconds an instant stops at the latest one; with nanoseconds it is exact up to it.** -/
theorem made_of_numbers (secs : UInt64) (nanos : UInt32) (micros : UInt64) : Made secs nanos micros where
  micros := toNanos_ofMicros secs micros
  exact := toNanos_ofParts_of_le
  beyond := toNanos_ofParts_of_lt
  stops := toNanos_ofParts_eq_min_iff secs nanos
  sums := by
    rw [← toNanos_inj, toNanos_sum]
    exact toNanos_ofParts_eq_min_iff secs nanos
  monotone secs' nanos' hle hfits := by
    rw [le_iff_toNanos, toNanos_ofParts_of_le hfits, toNanos_ofParts_of_le (Nat.le_trans hle hfits)]
    exact hle

/-- Made of a nanosecond more than the latest instant, an instant is neither the latest one nor what the sums from the
origin give, and comes before the one made of a nanosecond less. -/
theorem ofParts_turns_back :
    (ofParts 18446744073709551615 1000000000).toNanos ≠
        Min.min (totalNanos 18446744073709551615 1000000000) latest.toNanos ∧
      ofParts 18446744073709551615 1000000000 ≠
        origin + Span.ofSecs 18446744073709551615 + Span.ofNanos 1000000000 ∧
      totalNanos 18446744073709551615 999999999 < totalNanos 18446744073709551615 1000000000 ∧
      (ofParts 18446744073709551615 999999999).le (ofParts 18446744073709551615 1000000000) = false := by
  decide +kernel

end Instant

end EventLoop
