import Outbox.Time.Timestamp
import Outbox.Decimal.Integer
import Outbox.Text.Blank
import Outbox.Text.Utf8

/-!
# Scanning dates and times

The pieces that the readers of timestamps are made of.  A `Scanner` takes characters from the front
of a text and either gives a value and leaves the rest, or stops with a `Fault`.  Numbers have a
least and a greatest count of digits; a number ends at its greatest count or at the first character
that is no digit.
-/

namespace Outbox.Time

open Outbox.Decimal Outbox.Text

/-- Why a text is no timestamp. -/
inductive Fault
  | tooShort
  | outOfRange
  | tooLong
  | invalid
  | impossible
  deriving DecidableEq

/-- The wording of a fault. -/
def Fault.message : Fault → String
  | .tooShort => "premature end of input"
  | .outOfRange => "input is out of range"
  | .tooLong => "trailing input"
  | .invalid => "input contains invalid characters"
  | .impossible => "no possible date and time matching input"

/-- Takes a value from the front of a text. -/
abbrev Scanner (α : Type) := StateT (List Char) (Except Fault) α

namespace Scan

/-- Stops with a fault. -/
def fail {α : Type} (e : Fault) : Scanner α := fun _ => .error e

/-- The leading digits of a text, at most `most` of them where a bound is given. -/
def leadingDigits (most : Option Nat) (cs : List Char) : List Char :=
  let ds := cs.takeWhile Char.isDigit
  match most with
  | some n => ds.take n
  | none => ds

/-- A number of at least `least` and at most `most` digits. -/
def number (least : Nat) (most : Option Nat) : Scanner Nat := fun cs =>
  let ds := leadingDigits most cs
  if Utf8.byteLength cs < least then .error .tooShort
  else if ds.length < least then .error .invalid
  else .ok (ofDigits ds, cs.drop ds.length)

/-- A number between two bounds. -/
def bounded (low high : Nat) (scan : Scanner Nat) : Scanner Nat := do
  let n ← scan
  if low ≤ n ∧ n ≤ high then pure n else fail .outOfRange

/-- One given character. -/
def char (c : Char) : Scanner Unit
  | [] => .error .tooShort
  | d :: cs => if d = c then .ok ((), cs) else .error .invalid

/-- One character of a list. -/
def oneOf (choices : List Char) : Scanner Unit
  | [] => .error .tooShort
  | d :: cs => if d ∈ choices then .ok ((), cs) else .error .invalid

/-- Any number of blanks. -/
def blanks : Scanner Unit := fun cs => .ok ((), trimStart cs)

/-- Any number of colons and blanks. -/
def colonsOrBlanks : Scanner Unit := fun cs =>
  .ok ((), cs.dropWhile fun c => c == ':' || isBlank c)

/-- Nanoseconds from one to nine digits of fraction; further digits are passed over. -/
def fractionDigits : Scanner Nat := fun cs =>
  match number 1 (some 9) cs with
  | .error e => .error e
  | .ok (n, rest) =>
    .ok (n * Nat.pow 10 (9 - (leadingDigits (some 9) cs).length), rest.dropWhile Char.isDigit)

/-- A fraction after a point, or nothing. -/
def fraction : Scanner Nat
  | '.' :: cs => fractionDigits cs
  | cs => .ok (0, cs)

/-- A year with a sign and any number of digits, or up to four digits without one; blanks may
precede it. -/
def year : Scanner Int := fun cs =>
  let scanned : Except Fault (Int × List Char) :=
    match trimStart cs with
    | '-' :: ds => (number 1 none ds).map fun (n, rest) => (-(n : Int), rest)
    | '+' :: ds => (number 1 none ds).map fun (n, rest) => ((n : Int), rest)
    | ds => (number 1 (some 4) ds).map fun (n, rest) => ((n : Int), rest)
  match scanned with
  | .error e => .error e
  | .ok (y, rest) => if -0x80000000 ≤ y ∧ y < 0x80000000 then .ok (y, rest) else .error .outOfRange

/-- A number of one or two digits between two bounds; blanks may precede it. -/
def short (low high : Nat) : Scanner Nat := do
  blanks
  bounded low high (number 1 (some 2))

/-- A number of exactly two digits between two bounds. -/
def pair (low high : Nat) : Scanner Nat := bounded low high (number 2 (some 2))

/-- Two bytes that must be digits, the first of them at most `tens`; a greater one is out of
range. -/
def twoDigits (tens : Nat) : Scanner Nat
  | a :: b :: rest =>
    if a.isDigit && b.isDigit then
      if digitValue a ≤ tens then .ok (digitValue a * 10 + digitValue b, rest)
      else .error .outOfRange
    else .error .invalid
  | cs => if Utf8.byteLength cs < 2 then .error .tooShort else .error .invalid

/-- Seconds east of UTC: `Z`, or a sign, two digits of hours, the separator and two of minutes. -/
def offset (separator : Scanner Unit) : Scanner Int := fun cs =>
  let signed (sign : Int) : Scanner Int := do
    let hours ← twoDigits 9
    separator
    let minutes ← twoDigits 5
    pure (sign * ((hours * 3600 + minutes * 60 : Nat) : Int))
  match cs with
  | [] => .error .tooShort
  | 'Z' :: rest => .ok (0, rest)
  | 'z' :: rest => .ok (0, rest)
  | '+' :: rest => signed 1 rest
  | '-' :: rest => signed (-1) rest
  | '\u2212' :: rest => signed (-1) rest
  | _ :: _ => .error .invalid

/-- Runs a scanner on a whole text. -/
def run {α : Type} (scan : Scanner α) (cs : List Char) : Except Fault α := do
  let (a, rest) ← scan cs
  if rest.isEmpty then .ok a else .error .tooLong

end Scan

/-- The moment shown by a date and a clock that stand `offset` seconds east of UTC. -/
def Fields.atOffset (f : Fields) (offset : Int) : Except Fault Timestamp :=
  if ¬f.date.Valid then .error .outOfRange
  else if offset ≤ -86400 ∨ 86400 ≤ offset then .error .outOfRange
  else
    let t := f.timestamp.addSeconds (-offset)
    if firstDay * 86400 ≤ t.seconds ∧ t.seconds < (lastDay + 1) * 86400 then .ok t
    else .error .impossible

end Outbox.Time
