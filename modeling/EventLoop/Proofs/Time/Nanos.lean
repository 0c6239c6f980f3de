import EventLoop.Time.Instant

/-!
# Time in nanoseconds

The operations on spans and instants, which work on two words with carries and borrows, are those of the
natural numbers on `toNanos`, except that nothing goes beyond the longest span.

* `Span.le_iff_toNanos`, `Span.lt_iff_toNanos`, `Span.toNanos_inj` — the order, and equality.
* `Span.toNanos_ofSecs`, `Span.toNanos_ofMicros`, `Span.toNanos_ofNanos` — seconds and their parts, which never stop
  short.
* `Span.toNanos_add`, `Span.toNanos_sub` — the sum stops at the longest span, the difference at zero.
* `Instant.toNanos_add`, `Instant.toNanos_since` — the same for instants.
* `Instant.since_add`, `Instant.add_le_add` — adding a span is undone by `since`, and keeps the order.
-/

namespace EventLoop

namespace Span

theorem toNat_nanos_lt (d : Span) : d.nanos.toNat < 1000000000 :=
  UInt32.lt_iff_toNat_lt.mp d.nanos_lt

theorem toNanos_longest : longest.toNanos = 18446744073709551615999999999 := rfl

theorem toNanos_zero : zero.toNanos = 0 := rfl

theorem toNanos_le_longest (d : Span) : d.toNanos ≤ longest.toNanos := by
  have hn := d.toNat_nanos_lt
  have hs : d.secs.toNat < 18446744073709551616 := UInt64.toNat_lt_size d.secs
  rw [toNanos_longest, toNanos]
  omega

theorem toNanos_inj {a b : Span} : a.toNanos = b.toNanos ↔ a = b := by
  constructor
  · intro h
    have ha := a.toNat_nanos_lt
    have hb := b.toNat_nanos_lt
    unfold toNanos at h
    have hsecs : a.secs = b.secs := UInt64.toNat_inj.mp (by omega)
    have hnanos : a.nanos = b.nanos := UInt32.toNat_inj.mp (by omega)
    cases a
    cases b
    cases hsecs
    cases hnanos
    rfl
  · rintro rfl
    rfl

/-! ## Order -/

theorem le_iff_toNanos {a b : Span} : a.le b = true ↔ a.toNanos ≤ b.toNanos := by
  have ha := a.toNat_nanos_lt
  have hb := b.toNat_nanos_lt
  unfold le toNanos
  rw [Bool.or_eq_true, Bool.and_eq_true, decide_eq_true_eq, decide_eq_true_eq, decide_eq_true_eq,
    UInt64.lt_iff_toNat_lt, UInt32.le_iff_toNat_le, ← UInt64.toNat_inj]
  omega

theorem lt_iff_toNanos {a b : Span} : a.lt b = true ↔ a.toNanos < b.toNanos := by
  have ha := a.toNat_nanos_lt
  have hb := b.toNat_nanos_lt
  unfold lt toNanos
  rw [Bool.or_eq_true, Bool.and_eq_true, decide_eq_true_eq, decide_eq_true_eq, decide_eq_true_eq,
    UInt64.lt_iff_toNat_lt, UInt32.lt_iff_toNat_lt, ← UInt64.toNat_inj]
  omega

theorem order_eq_compare (a b : Span) : a.order b = compare a.toNanos b.toNanos := by
  show _ = compareOfLessAndEq a.toNanos b.toNanos
  unfold order compareOfLessAndEq
  simp only [lt_iff_toNanos, toNanos_inj]

theorem toNanos_max (a b : Span) : (a.max b).toNanos = Max.max a.toNanos b.toNanos := by
  unfold max
  split
  · next h => exact (Nat.max_eq_right (le_iff_toNanos.mp h)).symm
  · next h =>
    rw [le_iff_toNanos] at h
    exact (Nat.max_eq_left (by omega)).symm

/-! ## Construction -/

theorem toNanos_ofSecs (secs : UInt64) : (ofSecs secs).toNanos = secs.toNat * 1000000000 :=
  Nat.add_zero (secs.toNat * 1000000000)

theorem toNanos_ofMicros (micros : UInt64) : (ofMicros micros).toNanos = micros.toNat * 1000 := by
  show (micros / 1000000).toNat * 1000000000 + ((micros % 1000000).toUInt32 * 1000).toNat = _
  rw [UInt64.toNat_div, UInt32.toNat_mul, UInt64.toNat_toUInt32, UInt64.toNat_mod]
  show micros.toNat / 1000000 * 1000000000 + micros.toNat % 1000000 % 4294967296 * 1000 % 4294967296 = _
  omega

theorem toNanos_ofNanos {n : Nat} (h : n ≤ longest.toNanos) : (ofNanos n).toNanos = n := by
  rw [toNanos_longest] at h
  have hsecs : (UInt64.ofNat (n / 1000000000)).toNat = n / 1000000000 :=
    UInt64.toNat_ofNat_of_lt' (show _ < 18446744073709551616 by omega)
  have hnanos : (UInt32.ofNat (n % 1000000000)).toNat = n % 1000000000 :=
    UInt32.toNat_ofNat_of_lt' (show _ < 4294967296 by omega)
  show (UInt64.ofNat (n / 1000000000)).toNat * 1000000000 + (UInt32.ofNat (n % 1000000000)).toNat = n
  rw [hsecs, hnanos]
  omega

/-! ## Sum -/

theorem addSecs?_of_lt {a b : UInt64} (h : a.toNat + b.toNat < 18446744073709551616) :
    ∃ c, addSecs? a b = some c ∧ c.toNat = a.toNat + b.toNat := by
  refine ⟨a + b, if_pos h, ?_⟩
  rw [UInt64.toNat_add]
  exact Nat.mod_eq_of_lt h

theorem addSecs?_of_le {a b : UInt64} (h : 18446744073709551616 ≤ a.toNat + b.toNat) :
    addSecs? a b = none := if_neg (by omega)

theorem toNat_nanos_add (a b : Span) : (a.nanos + b.nanos).toNat = a.nanos.toNat + b.nanos.toNat := by
  have ha := a.toNat_nanos_lt
  have hb := b.toNat_nanos_lt
  rw [UInt32.toNat_add]
  omega

theorem toNanos_add (a b : Span) :
    (a + b).toNanos = min (a.toNanos + b.toNanos) longest.toNanos := by
  have ha := a.toNat_nanos_lt
  have hb := b.toNat_nanos_lt
  have hadd := toNat_nanos_add a b
  have hcap : ∀ n, longest.toNanos ≤ n → longest.toNanos = min n longest.toNanos :=
    fun n h => (Nat.min_eq_right h).symm
  show (add a b).toNanos = _
  unfold add
  -- the seconds alone are too many, or the carry makes them so, or all fits
  rcases Nat.lt_or_ge (a.secs.toNat + b.secs.toNat) 18446744073709551616 with hs | hs
  · obtain ⟨c, hc, hcn⟩ := addSecs?_of_lt hs
    rw [hc]
    dsimp only
    split
    · next hcarry =>
      have hcarry' : 1000000000 ≤ a.nanos.toNat + b.nanos.toNat := by
        rw [← hadd]
        exact UInt32.le_iff_toNat_le.mp hcarry
      have hsub : (a.nanos + b.nanos - nanosPerSec).toNat =
          a.nanos.toNat + b.nanos.toNat - 1000000000 := by
        rw [UInt32.toNat_sub_of_le _ _ hcarry, hadd]
        rfl
      have hone : (1 : UInt64).toNat = 1 := rfl
      rcases Nat.lt_or_ge (c.toNat + (1 : UInt64).toNat) 18446744073709551616 with hc1 | hc1
      · obtain ⟨e, he, hen⟩ := addSecs?_of_lt hc1
        rw [he]
        show e.toNat * 1000000000 + (a.nanos + b.nanos - nanosPerSec).toNat = _
        rw [hsub, toNanos_longest, toNanos, toNanos, Nat.min_eq_left] <;> omega
      · rw [addSecs?_of_le hc1]
        refine hcap _ ?_
        rw [toNanos_longest, toNanos, toNanos]
        omega
    · next hcarry =>
      have hcarry' : a.nanos.toNat + b.nanos.toNat < 1000000000 := by
        rw [← hadd]
        exact UInt32.lt_iff_toNat_lt.mp (UInt32.not_le.mp hcarry)
      show c.toNat * 1000000000 + (a.nanos + b.nanos).toNat = _
      rw [hadd, toNanos_longest, toNanos, toNanos, Nat.min_eq_left] <;> omega
  · rw [addSecs?_of_le hs]
    refine hcap _ ?_
    rw [toNanos_longest, toNanos, toNanos]
    omega

/-! ## Difference -/

theorem secs_le_of_lt {a b : Span} (h : b.toNanos < a.toNanos) : b.secs ≤ a.secs := by
  have ha := a.toNat_nanos_lt
  unfold toNanos at h
  rw [UInt64.le_iff_toNat_le]
  omega

/-- A span with fewer nanoseconds that is longer has a second to spare. -/
theorem one_le_secs_of_borrow {a b : Span} (h : b.toNanos < a.toNanos) (hborrow : a.nanos < b.nanos) :
    1 ≤ a.secs - b.secs := by
  rw [UInt64.le_iff_toNat_le, UInt64.toNat_sub_of_le _ _ (secs_le_of_lt h)]
  unfold toNanos at h
  rw [UInt32.lt_iff_toNat_lt] at hborrow
  show 1 ≤ _
  omega

theorem borrowed_lt (a : Span) : nanosPerSec.toNat + a.nanos.toNat < 4294967296 := by
  have ha := a.toNat_nanos_lt
  show 1000000000 + _ < _
  omega

theorem nanos_le_borrowed (a b : Span) : b.nanos ≤ nanosPerSec + a.nanos := by
  have hb := b.toNat_nanos_lt
  have hn : nanosPerSec.toNat = 1000000000 := rfl
  rw [UInt32.le_iff_toNat_le, UInt32.toNat_add, Nat.mod_eq_of_lt a.borrowed_lt]
  omega

theorem toNanos_sub (a b : Span) : (a - b).toNanos = a.toNanos - b.toNanos := by
  show (sub a b).toNanos = _
  unfold sub
  split
  · next h =>
    have := le_iff_toNanos.mp h
    rw [toNanos_zero]
    omega
  · next h =>
    have hlt : b.toNanos < a.toNanos := Nat.lt_of_not_le (mt le_iff_toNanos.mpr h)
    have hle : b.secs.toNat ≤ a.secs.toNat := UInt64.le_iff_toNat_le.mp (secs_le_of_lt hlt)
    have hsecs : (a.secs - b.secs).toNat = a.secs.toNat - b.secs.toNat :=
      UInt64.toNat_sub_of_le _ _ (secs_le_of_lt hlt)
    split
    · next hborrow =>
      -- a second is borrowed, so there is one
      have hspare : 1 ≤ (a.secs - b.secs).toNat := UInt64.le_iff_toNat_le.mp (one_le_secs_of_borrow hlt hborrow)
      have hone : (a.secs - b.secs - 1).toNat = (a.secs - b.secs).toNat - 1 :=
        UInt64.toNat_sub_of_le _ _ (one_le_secs_of_borrow hlt hborrow)
      have hsum : (nanosPerSec + a.nanos).toNat = 1000000000 + a.nanos.toNat := by
        rw [UInt32.toNat_add]
        exact Nat.mod_eq_of_lt a.borrowed_lt
      have hnanos : (nanosPerSec + a.nanos - b.nanos).toNat =
          1000000000 + a.nanos.toNat - b.nanos.toNat := by
        rw [UInt32.toNat_sub_of_le _ _ (nanos_le_borrowed a b), hsum]
      have hb := b.toNat_nanos_lt
      unfold toNanos
      rw [hone, hnanos]
      omega
    · next hborrow =>
      have hborrow' : b.nanos ≤ a.nanos := UInt32.not_lt.mp hborrow
      have hnanos : b.nanos.toNat ≤ a.nanos.toNat := UInt32.le_iff_toNat_le.mp hborrow'
      unfold toNanos
      rw [hsecs, UInt32.toNat_sub_of_le _ _ hborrow']
      omega

end Span

namespace Instant

theorem le_iff_toNanos {a b : Instant} : a.le b = true ↔ a.toNanos ≤ b.toNanos := Span.le_iff_toNanos

theorem lt_iff_toNanos {a b : Instant} : a.sinceOrigin.lt b.sinceOrigin = true ↔ a.toNanos < b.toNanos :=
  Span.lt_iff_toNanos

theorem order_eq_compare (a b : Instant) : a.order b = compare a.toNanos b.toNanos :=
  Span.order_eq_compare a.sinceOrigin b.sinceOrigin

theorem toNanos_inj {a b : Instant} : a.toNanos = b.toNanos ↔ a = b := by
  constructor
  · intro h
    cases a
    cases b
    rw [mk.injEq]
    exact Span.toNanos_inj.mp h
  · rintro rfl
    rfl

theorem toNanos_latest : latest.toNanos = 18446744073709551615999999999 := rfl

theorem toNanos_le_latest (t : Instant) : t.toNanos ≤ latest.toNanos := t.sinceOrigin.toNanos_le_longest

theorem toNanos_add (t : Instant) (d : Span) :
    (t + d).toNanos = Min.min (t.toNanos + d.toNanos) latest.toNanos := Span.toNanos_add t.sinceOrigin d

theorem add_le_add {a b : Instant} {d e : Span} (ht : a.le b = true) (hd : d.le e = true) :
    (a + d).le (b + e) = true := by
  rw [le_iff_toNanos] at ht ⊢
  rw [Span.le_iff_toNanos] at hd
  rw [toNanos_add, toNanos_add]
  omega

theorem toNanos_since (t earlier : Instant) : (t.since earlier).toNanos = t.toNanos - earlier.toNanos :=
  Span.toNanos_sub t.sinceOrigin earlier.sinceOrigin

/-- The span that was added is the span since, unless the sum stopped short of it. -/
theorem since_add {t : Instant} {d : Span} (h : t.toNanos + d.toNanos ≤ latest.toNanos) : (t + d).since t = d := by
  rw [← Span.toNanos_inj, toNanos_since, toNanos_add, Nat.min_eq_left h]
  omega

end Instant

end EventLoop
