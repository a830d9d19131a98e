import Outbox.Time.Timestamp

/-!
# Durations

A length of time of up to `2 ^ 64 - 1` seconds and 999999999 nanoseconds.  Sums and multiples that
would pass the longest duration stop there.

* `Duration.le_iff_toNanos_le` — the order is that of the lengths in nanoseconds.
* `Duration.toNanos_shorter` — the shorter of two has the smaller length.
-/

namespace Outbox.Time

/-- A length of time. -/
structure Duration where
  seconds : Nat
  nanos : Nat
  seconds_lt : seconds < 0x10000000000000000
  nanos_lt : nanos < nanosPerSecond
  deriving DecidableEq

namespace Duration

/-- The longest duration. -/
def longest : Duration := ⟨0xffffffffffffffff, nanosPerSecond - 1, by decide, by decide⟩

/-- No time at all. -/
def zero : Duration := ⟨0, 0, by decide, by decide⟩

instance : Inhabited Duration := ⟨zero⟩

/-- Seconds and nanoseconds, or the longest duration if there are too many seconds. -/
def saturate (seconds nanos : Nat) (h : nanos < nanosPerSecond) : Duration :=
  if hs : seconds < 0x10000000000000000 then ⟨seconds, nanos, hs, h⟩ else longest

/-- The sum, up to the longest duration. -/
def saturatingAdd (a b : Duration) : Duration :=
  let nanos := a.nanos + b.nanos
  saturate (a.seconds + b.seconds + nanos / nanosPerSecond) (nanos % nanosPerSecond)
    (Nat.mod_lt _ (by decide))

/-- The multiple, up to the longest duration. -/
def saturatingMul (a : Duration) (factor : Nat) : Duration :=
  let nanos := a.nanos * factor
  saturate (a.seconds * factor + nanos / nanosPerSecond) (nanos % nanosPerSecond)
    (Nat.mod_lt _ (by decide))

/-- The length in nanoseconds. -/
def toNanos (a : Duration) : Nat := a.seconds * nanosPerSecond + a.nanos

instance : LE Duration :=
  ⟨fun a b => a.seconds < b.seconds ∨ (a.seconds = b.seconds ∧ a.nanos ≤ b.nanos)⟩

instance (a b : Duration) : Decidable (a ≤ b) := inferInstanceAs (Decidable (_ ∨ _))

/-- The shorter of two durations. -/
def shorter (a b : Duration) : Duration := if a ≤ b then a else b

/-- Whole milliseconds, up to the longest duration. -/
def ofMillis (millis : Nat) : Duration :=
  saturate (millis / 1000) (millis % 1000 * 1000000) (by
    have := Nat.mod_lt millis (show 1000 > 0 by decide)
    unfold nanosPerSecond
    omega)

/-- Whole seconds, up to the longest duration. -/
def ofSeconds (seconds : Nat) : Duration := saturate seconds 0 (by decide)

/-- Whole milliseconds of a duration. -/
def toMillis (a : Duration) : Nat := a.toNanos / 1000000

/-- Order of durations is order of their nanoseconds. -/
theorem le_iff_toNanos_le (a b : Duration) : a ≤ b ↔ a.toNanos ≤ b.toNanos := by
  have ha := a.nanos_lt
  have hb := b.nanos_lt
  show a.seconds < b.seconds ∨ (a.seconds = b.seconds ∧ a.nanos ≤ b.nanos) ↔ _
  unfold toNanos
  unfold nanosPerSecond at *
  omega

theorem toNanos_shorter (a b : Duration) :
    (shorter a b).toNanos = min a.toNanos b.toNanos := by
  unfold shorter
  by_cases h : a ≤ b
  · rw [if_pos h]
    exact (Nat.min_eq_left ((le_iff_toNanos_le a b).1 h)).symm
  · rw [if_neg h]
    have h' := mt (le_iff_toNanos_le a b).2 h
    omega

end Duration

end Outbox.Time
