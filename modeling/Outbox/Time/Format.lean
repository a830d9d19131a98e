import Outbox.Time.Timestamp
import Outbox.Decimal.Integer

/-!
# Written timestamps

Three forms of a moment in UTC: the version marker of an index document, always with six digits of
fraction (`version`); the form of a task's times, with as many thousands of digits as the fraction
needs (`iso`); and the form of messages (`plain`).
-/

namespace Outbox.Time

open Outbox.Decimal

/-- Years 0 to 9999 have four digits, all others a sign and at least four. -/
def yearText (year : Int) : List Char :=
  if 0 ≤ year ∧ year ≤ 9999 then padded 4 year.toNat
  else (if year < 0 then '-' else '+') :: padded 4 year.natAbs

/-- Year, month and day. -/
def Date.text (d : Date) : List Char :=
  yearText d.year ++ '-' :: padded 2 d.month ++ '-' :: padded 2 d.day

/-- Hour, minute and second. -/
def Fields.clockText (f : Fields) : List Char :=
  padded 2 f.hour ++ ':' :: padded 2 f.minute ++ ':' :: padded 2 f.second

/-- The fewest groups of three digits that show a fraction exactly; nothing for zero. -/
def fractionText (nanos : Nat) : List Char :=
  if nanos = 0 then []
  else if nanos % 1000000 = 0 then '.' :: padded 3 (nanos / 1000000)
  else if nanos % 1000 = 0 then '.' :: padded 6 (nanos / 1000)
  else '.' :: padded 9 nanos

/-- The version marker of a document: microseconds, cut and not rounded. -/
def Timestamp.version (t : Timestamp) : List Char :=
  let f := t.fields
  f.date.text ++ 'T' :: f.clockText ++ '.' :: padded 6 (f.nanos / 1000) ++ ['Z']

/-- The form in which a task keeps its times. -/
def Timestamp.iso (t : Timestamp) : List Char :=
  let f := t.fields
  f.date.text ++ 'T' :: f.clockText ++ fractionText f.nanos ++ ['Z']

/-- The form in which messages show a moment. -/
def Timestamp.plain (t : Timestamp) : String :=
  let f := t.fields
  String.ofList (f.date.text ++ ' ' :: f.clockText ++ fractionText f.nanos ++ [' ', 'U', 'T', 'C'])

end Outbox.Time
