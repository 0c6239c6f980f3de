import EventLoop.Proofs.Machine.Retry
import EventLoop.Proofs.Time.Words

/-!
# Exact time

Time is kept in two words, and stops at the latest instant. Apart from that it is exact: instants add, differ and
compare as their nanoseconds do, and what is registered with a timeout is due exactly so much later.

* `Instant.Exact` — the laws of instants and spans, and that no word wraps on the way.
* `Host.KeepsTime` — when registrations are due.
* `time_is_exact` — both hold, whatever the state of a reactor in use.
-/

namespace EventLoop

variable {σ α : Type}

/-! ## Instants and spans -/

/-- What holds of an instant and a span, and of two more of each. -/
structure Instant.Exact (t a b : Instant) (d e : Span) : Prop where
  /-- A sum stops at the latest instant, … -/
  sum : (t + d).toNanos = Min.min (t.toNanos + d.toNanos) latest.toNanos
  /-- … is normal … -/
  sum_normal : (t + d).sinceOrigin.nanos < nanosPerSec
  /-- … and takes no step that would wrap. -/
  sum_words : Words.add? t.sinceOrigin.words d.words = some (t + d).sinceOrigin.words
  /-- A difference stops at zero … -/
  difference : ((a.since b).toNanos : Int) = Max.max ((a.toNanos : Int) - b.toNanos) 0
  /-- … and takes no step that would wrap. -/
  difference_words : Words.since? a.sinceOrigin.words b.sinceOrigin.words = some (a.since b).words
  /-- The order is that of the nanoseconds. -/
  order : a.order b = compare a.toNanos b.toNanos
  lt : a.sinceOrigin.lt b.sinceOrigin = true ↔ a.toNanos < b.toNanos
  le : a.le b = true ↔ a.toNanos ≤ b.toNanos
  span_le : d.le e = true ↔ d.toNanos ≤ e.toNanos
  /-- A sum that did not stop can be undone. -/
  undone : t.toNanos + d.toNanos ≤ latest.toNanos → (t + d).since t = d
  /-- A later instant and a longer span have a later sum. -/
  monotone : a.le b = true → d.le e = true → (a + d).le (b + e) = true

theorem Instant.exact (t a b : Instant) (d e : Span) : Instant.Exact t a b d e where
  sum := toNanos_add t d
  sum_normal := (t + d).sinceOrigin.nanos_lt
  sum_words := Words.add?_words t.sinceOrigin d
  difference := by
    rw [toNanos_since]
    omega
  difference_words := Words.since?_words a.sinceOrigin b.sinceOrigin
  order := order_eq_compare a b
  lt := lt_iff_toNanos
  le := le_iff_toNanos
  span_le := Span.le_iff_toNanos
  undone := since_add
  monotone := add_le_add

/-! ## Timeouts -/

/-- A timeout of seconds and microseconds is finite unless it is all but endless. It may stop at the longest span. -/
theorem Timeout.ofParts_eq {secs : UInt64} (micros : UInt64) (h : secs ≠ 18446744073709551615) :
    ∃ d, ofParts secs micros = .after d ∧
      d.toNanos = min (secs.toNat * 1000000000 + micros.toNat * 1000) Span.longest.toNanos := by
  refine ⟨_, if_neg h, ?_⟩
  rw [Span.toNanos_add, Span.toNanos_ofSecs, Span.toNanos_ofMicros]

/-- The two places where time stops are one. -/
theorem Instant.toNanos_add_of_capped {t : Instant} {d : Span} {n : Nat}
    (h : d.toNanos = Min.min n Span.longest.toNanos) :
    (t + d).toNanos = Min.min (t.toNanos + n) latest.toNanos := by
  rw [toNanos_add, h, show latest.toNanos = Span.longest.toNanos from rfl]
  omega

/-! ## Registrations -/

/-- The notification is due so many nanoseconds after the origin: a clock that shows so much or more finds it
overdue. -/
structure Notification.DueAt (n : Notification α) (nanos : Nat) : Prop where
  due : ∃ u, n.due = some u ∧ u.toNanos = nanos
  overdue : ∀ now : Instant, n.due.any (·.le now) = true ↔ nanos ≤ now.toNanos

theorem Notification.dueAt_of_due {n : Notification α} {u : Instant} (h : n.due = some u) :
    n.DueAt u.toNanos where
  due := ⟨u, h, rfl⟩
  overdue now := by
    rw [h, Option.any_some]
    exact Instant.le_iff_toNanos

namespace Host

variable {host : Host σ α} {y : System σ α} {request : Request α}

theorem dueTime_of_now {t : Instant} {delay : Span} (hnow : (host.now y.outside).1 = .ok t) :
    (host.dueTime y (.after delay)).1 = .ok (some (t + delay)) := by
  unfold dueTime readClock
  rcases hread : host.now y.outside with ⟨fault | t', s⟩
  · rw [hread] at hnow
    cases hnow
  · rw [hread] at hnow
    cases hnow
    rfl

/-- A registration that succeeds arms its notification for the time it found. -/
theorem armed_of_register (hy : y.reactor.WellFormed) {h : Handle} {due : Option Instant}
    (hok : (host.register y request).1 = .ok h) (hdue : (host.dueTime y request.timeout).1 = .ok due) :
    ∃ g, (host.register y request).2.reactor.notifications.get? h = some (request.armed due g) := by
  have hregistration : host.registration y request = some (.registered h request due) :=
    registration_eq_some.mpr ⟨h, due, hok, hdue, rfl⟩
  have heffect : Reactor.Effect (host.registration y request) y.reactor (host.register y request).2.reactor :=
    effect_of_register hy
  rw [hregistration] at heffect
  cases heffect with
  | registered harms => exact ⟨_, (harms.notifications.get? h).trans (if_pos rfl)⟩

/-- What is registered with a timeout is due when the timeout has passed since the clock was read. -/
structure KeepsTime (host : Host σ α) (y : System σ α) : Prop where
  after : ∀ {request delay t h}, request.timeout = .after delay → (host.now y.outside).1 = .ok t →
    (host.register y request).1 = .ok h →
    ∃ n, (host.register y request).2.reactor.notifications.get? h = some n ∧
      n.DueAt (min (t.toNanos + delay.toNanos) Instant.latest.toNanos)
  parts : ∀ {request secs micros t h}, request.timeout = .ofParts secs micros → secs ≠ 18446744073709551615 →
    (host.now y.outside).1 = .ok t → (host.register y request).1 = .ok h →
    ∃ n, (host.register y request).2.reactor.notifications.get? h = some n ∧
      n.DueAt (min (t.toNanos + secs.toNat * 1000000000 + micros.toNat * 1000) Instant.latest.toNanos)

theorem dueAt_of_register (hy : y.reactor.WellFormed) {delay : Span} {t : Instant} {h : Handle}
    (htimeout : request.timeout = .after delay) (hnow : (host.now y.outside).1 = .ok t)
    (hok : (host.register y request).1 = .ok h) :
    ∃ n, (host.register y request).2.reactor.notifications.get? h = some n ∧ n.DueAt (t + delay).toNanos := by
  have hdue : (host.dueTime y request.timeout).1 = .ok (some (t + delay)) := by
    rw [htimeout]
    exact dueTime_of_now hnow
  obtain ⟨g, hget⟩ := armed_of_register hy hok hdue
  exact ⟨_, hget, Notification.dueAt_of_due rfl⟩

theorem keepsTime (hy : y.reactor.WellFormed) : host.KeepsTime y where
  after {request delay t h} htimeout hnow hok := by
    rw [← Instant.toNanos_add]
    exact dueAt_of_register hy htimeout hnow hok
  parts {request secs micros t h} htimeout hsecs hnow hok := by
    obtain ⟨d, hd, hnanos⟩ := Timeout.ofParts_eq micros hsecs
    rw [Nat.add_assoc, ← Instant.toNanos_add_of_capped hnanos]
    exact dueAt_of_register hy (htimeout.trans hd) hnow hok

end Host

/-- **Sums, differences and comparisons of times are exact but for the latest instant, and so is every due time.** -/
theorem time_is_exact (host : Host σ α) {y : System σ α} (hy : y.reactor.Reachable) :
    (∀ t a b d e, Instant.Exact t a b d e) ∧ host.KeepsTime y :=
  ⟨Instant.exact, Host.keepsTime hy.wellFormed⟩

/-- A clock that has almost come to its end. -/
def Host.old : Host Unit Unit :=
  { Host.steady with now := fun s => (.ok (.ofParts 18446744073709551614 999999999), s) }

/-- To be notified after some seconds and some microseconds. -/
def Request.toWait (secs micros : UInt64) : Request Unit :=
  { descriptor := .timer, callback := ⟨0⟩, arg := (), interest := .none, timeout := .ofParts secs micros }

/-- A timeout of a microsecond carries into the last second, and one of a second and a microsecond is due at the very
end. -/
theorem time_is_exact_old :
    System.unused.reactor.Reachable ∧
      ((∀ t a b d e, Instant.Exact t a b d e) ∧ Host.old.KeepsTime System.unused) ∧
      ((Host.old.register .unused (.toWait 0 1)).2.reactor.notifications.get? ⟨0, 0⟩).bind Notification.due =
        some (.ofParts 18446744073709551615 999) ∧
      ((Host.old.register .unused (.toWait 1 1)).2.reactor.notifications.get? ⟨0, 0⟩).bind Notification.due =
        some .latest :=
  have hreachable : System.unused.reactor.Reachable := .initial (.empty _)
  ⟨hreachable, time_is_exact .old hreachable, by decide +kernel, by decide +kernel⟩

end EventLoop
