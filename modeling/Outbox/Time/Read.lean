import Outbox.Time.Scan

/-!
# Reading timestamps

Four readers over the pieces of `Scan`:

* `readStrict`, the Internet date and time format, for version markers and dates of commands;
* `readNaive`, a date and a clock without an offset, taken as UTC, for version markers;
* `readRelaxed`, the strict format with blanks between its parts, fewer digits and signed years, for
  the times of a task;
* `readDate`, a day alone, for dates of commands.
-/

namespace Outbox.Time

open Outbox.Text

/-! ### The strict format -/

/-- Date, separator, clock and fraction with every digit in its place. -/
def scanStrictFields : Scanner Fields := do
  let year ← Scan.number 4 (some 4)
  Scan.char '-'
  let month ← Scan.pair 1 12
  Scan.char '-'
  let day ← Scan.pair 1 31
  Scan.oneOf ['T', 't', ' ']
  let hour ← Scan.pair 0 23
  Scan.char ':'
  let minute ← Scan.pair 0 59
  Scan.char ':'
  let second ← Scan.pair 0 60
  let nanos ← Scan.fraction
  pure ⟨⟨year, month, day⟩, hour, minute, second, nanos⟩

/-- The strict format: offsets have a colon and go up to 23 hours and 59 minutes. -/
def scanStrict : Scanner (Fields × Int) := do
  let f ← scanStrictFields
  let offset ← Scan.offset (Scan.char ':')
  if -86340 ≤ offset ∧ offset ≤ 86340 then pure (f, offset) else Scan.fail .outOfRange

/-- Reads the Internet date and time format. -/
def readStrict (cs : List Char) : Except Fault Timestamp := do
  let (f, offset) ← Scan.run scanStrict cs
  f.atOffset offset

/-! ### A date and a clock without an offset -/

/-- A date; every number may have leading blanks and fewer digits. -/
def scanDate : Scanner Date := do
  let year ← Scan.year
  Scan.char '-'
  let month ← Scan.short 1 12
  Scan.char '-'
  let day ← Scan.short 1 31
  pure ⟨year, month, day⟩

/-- A date, `T`, a clock and an optional fraction. -/
def scanNaive : Scanner Fields := do
  let date ← scanDate
  Scan.char 'T'
  let hour ← Scan.short 0 23
  Scan.char ':'
  let minute ← Scan.short 0 59
  Scan.char ':'
  let second ← Scan.short 0 60
  let nanos ← Scan.fraction
  pure ⟨date, hour, minute, second, nanos⟩

/-- Reads a date and a clock as UTC. -/
def readNaive (cs : List Char) : Except Fault Timestamp := do
  let f ← Scan.run scanNaive cs
  f.atOffset 0

/-- Reads a version marker: strict, or else without an offset. -/
def readVersion? (cs : List Char) : Option Timestamp :=
  match readStrict cs with
  | .ok t => some t
  | .error _ => (readNaive cs).toOption

/-! ### The relaxed format -/

/-- An offset, or `UTC` in any case. -/
def scanZone : Scanner Int := fun cs =>
  if (cs.take 3).map Char.toUpper = ['U', 'T', 'C'] then .ok (0, cs.drop 3)
  else Scan.offset Scan.colonsOrBlanks cs

/-- Date, clock and zone with blanks between the parts. -/
def scanRelaxed : Scanner (Fields × Int) := do
  let year ← Scan.year
  Scan.blanks
  Scan.char '-'
  let month ← Scan.short 1 12
  Scan.blanks
  Scan.char '-'
  let day ← Scan.short 1 31
  Scan.oneOf ['T', 't', ' ']
  let hour ← Scan.short 0 23
  Scan.blanks
  Scan.char ':'
  let minute ← Scan.short 0 59
  Scan.blanks
  Scan.char ':'
  let second ← Scan.short 0 60
  let nanos ← Scan.fraction
  Scan.blanks
  let offset ← scanZone
  Scan.blanks
  pure (⟨⟨year, month, day⟩, hour, minute, second, nanos⟩, offset)

/-- Reads the relaxed format. -/
def readRelaxed (cs : List Char) : Except Fault Timestamp := do
  let (f, offset) ← Scan.run scanRelaxed cs
  f.atOffset offset

/-! ### A day alone -/

/-- Reads a day as its first moment in UTC. -/
def readDate (cs : List Char) : Except Fault Timestamp := do
  let d ← Scan.run scanDate cs
  Fields.atOffset ⟨d, 0, 0, 0, 0⟩ 0

end Outbox.Time
