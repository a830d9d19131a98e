import Outbox.Time.Civil

/-!
# Timestamps

A moment in UTC: whole seconds from 1970-01-01T00:00:00 and nanoseconds after them.  A leap second
is kept as the second before it with a thousand million nanoseconds more, so that order on pairs is
order in time.  `Fields` shows the same moment as date and time of day.
-/

namespace Outbox.Time

/-- A moment: floor of the seconds, and nanoseconds from there. -/
structure Timestamp where
  seconds : Int
  nanos : Nat
  deriving DecidableEq

/-- Nanoseconds of a second. -/
def nanosPerSecond : Nat := 1000000000

namespace Timestamp

instance : LT Timestamp :=
  ⟨fun a b => a.seconds < b.seconds ∨ (a.seconds = b.seconds ∧ a.nanos < b.nanos)⟩

instance : LE Timestamp :=
  ⟨fun a b => a.seconds < b.seconds ∨ (a.seconds = b.seconds ∧ a.nanos ≤ b.nanos)⟩

instance (a b : Timestamp) : Decidable (a < b) :=
  inferInstanceAs (Decidable (_ ∨ _))

instance (a b : Timestamp) : Decidable (a ≤ b) :=
  inferInstanceAs (Decidable (_ ∨ _))

/-- Whether a moment lies in the calendar, with nanoseconds past the second only inside a leap
second, which is the last of a minute. -/
def Valid (t : Timestamp) : Prop :=
  firstDay * 86400 ≤ t.seconds ∧ t.seconds < (lastDay + 1) * 86400 ∧
    t.nanos < 2 * nanosPerSecond ∧ (nanosPerSecond ≤ t.nanos → t.seconds % 60 = 59)

instance (t : Timestamp) : Decidable t.Valid := by unfold Valid; infer_instance

/-- Cuts the nanoseconds to whole microseconds. -/
def truncateMicros (t : Timestamp) : Timestamp := { t with nanos := t.nanos / 1000 * 1000 }

/-- The moment that many nanoseconds later, or earlier; a leap second is left for the next one. -/
def addNanos (t : Timestamp) (by_ : Int) : Timestamp :=
  let total := (t.nanos : Int) + by_
  ⟨t.seconds + total / nanosPerSecond, (total % nanosPerSecond).toNat⟩

/-- The moment that many milliseconds later, or earlier. -/
def addMillis (t : Timestamp) (millis : Int) : Timestamp := t.addNanos (millis * 1000000)

/-- The moment that many seconds later, or earlier. -/
def addSeconds (t : Timestamp) (seconds : Int) : Timestamp :=
  { t with seconds := t.seconds + seconds }

end Timestamp

/-- A date and a time of day; the second is 60 inside a leap second. -/
structure Fields where
  date : Date
  hour : Nat
  minute : Nat
  second : Nat
  nanos : Nat
  deriving DecidableEq

/-- The date and time of day of a moment. -/
def Timestamp.fields (t : Timestamp) : Fields :=
  let ofDay := (t.seconds % 86400).toNat
  let leap := t.nanos / nanosPerSecond
  ⟨Date.ofDays (t.seconds / 86400), ofDay / 3600, ofDay / 60 % 60, ofDay % 60 + leap,
    t.nanos % nanosPerSecond⟩

namespace Fields

/-- The seconds from 1970-01-01T00:00:00 to the second shown; second 60 counts as second 59. -/
def seconds (f : Fields) : Int :=
  f.date.toDays * 86400 + (f.hour * 3600 + f.minute * 60 + min f.second 59 : Nat)

/-- The moment that the fields show in UTC. -/
def timestamp (f : Fields) : Timestamp :=
  ⟨f.seconds, f.nanos + (if f.second = 60 then nanosPerSecond else 0)⟩

end Fields

end Outbox.Time
