import Outbox.Json.Basic
import Outbox.Decimal.Integer

/-!
# Numerals of a JSON text

A numeral is kept as written until it is known what it is for.  As a number it is an integer where
one of 64 bits fits, and else binary: the leading digits that fit an unsigned word, scaled by the
power of ten that the rest of the numeral asks for.  The scaling rounds once for each factor, so the
last bit need not be that of the nearest number.
-/

namespace Outbox.Json

open Outbox.Decimal

/-- A numeral as written; `exponent` holds whether it is negative, and its digits. -/
structure Numeral where
  negative : Bool
  whole : List Char
  fraction : List Char
  exponent : Option (Bool × List Char)
  deriving DecidableEq

namespace Numeral

/-- Neither a fraction nor an exponent. -/
def isWhole (n : Numeral) : Bool := n.fraction.isEmpty && n.exponent.isNone

/-- The greatest unsigned word. -/
def greatestWord : Nat := 0xffffffffffffffff

/-- Takes digits onto a word as long as they fit, and leaves the others. -/
def absorb : Nat → List Char → Nat × List Char
  | n, [] => (n, [])
  | n, d :: ds =>
    let next := n * 10 + digitValue d
    if next ≤ greatestWord then absorb next ds else (n, d :: ds)

/-- A power of ten up to `10 ^ 308`, rounded. -/
def powerOfTen (k : Nat) : Binary := (Binary.ofRatio? false (Nat.pow 10 k) 1).getD ⟨0⟩

/-- Division by a power of ten in steps of at most `10 ^ 308`. -/
def shrink (x : Binary) (k : Nat) : Binary :=
  if k ≤ 308 then (x.div? (powerOfTen k)).getD ⟨0⟩
  else if x.bits == 0 then x
  else shrink ((x.div? (powerOfTen 308)).getD ⟨0⟩) (k - 308)
  termination_by k

/-- Multiplication by a power of ten; nothing where the product is not finite. -/
def stretch? (x : Binary) (k : Nat) : Option Binary :=
  if k ≤ 308 then x.mul? (powerOfTen k)
  else if x.bits == 0 then some x
  else none

/-- The word times a power of ten. -/
def scaled? (word : Nat) (exponent : Int) : Option Binary :=
  let x := (Binary.ofRatio? false word 1).getD ⟨0⟩
  if exponent < 0 then some (shrink x (-exponent).toNat) else stretch? x exponent.toNat

/-- The magnitude of a numeral as a binary number; nothing where it is not finite. -/
def magnitude? (n : Numeral) : Option Binary :=
  let (word, dropped) := absorb 0 n.whole
  let (word, left) := absorb word n.fraction
  let point : Int := (dropped.length : Int) - (n.fraction.length - left.length : Nat)
  match n.exponent with
  | none => scaled? word point
  | some (negative, ds) =>
    let e := ofDigits ds
    if 0x80000000 ≤ e then if word == 0 || negative then some ⟨0⟩ else none
    else scaled? word (point + if negative then -(e : Int) else e)

/-- The number that a numeral stands for. -/
def number? (n : Numeral) : Option Number :=
  let value := ofDigits n.whole
  if n.isWhole && !n.negative && value ≤ greatestWord then some (.integer value)
  else if n.isWhole && n.negative && 0 < value && value ≤ 0x8000000000000000 then
    some (.integer (-(value : Int)))
  else n.magnitude?.map fun x => .binary (Binary.ofParts n.negative x.unsigned)

/-- The integer of 64 bits that a numeral stands for, if it stands for one. -/
def integer? (n : Numeral) : Option Int :=
  match n.number? with
  | some (.integer i) => some i
  | _ => none

end Numeral

end Outbox.Json
