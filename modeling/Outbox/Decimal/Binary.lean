/-!
# Binary floating point of 64 bits

A finite number of the format is a sign and `significand * 2 ^ exponent`.  Rounding a quotient of
natural numbers to the nearest such number, an exact half going to the even significand, is all the
arithmetic that reading and writing numbers takes (`ofRatio?`).
-/

namespace Outbox.Decimal

/-- The bit that a significand has besides the 52 that are stored, unless the number is among the
smallest. -/
def hiddenBit : Nat := 0x10000000000000

/-- The bit that holds the sign. -/
def signBit : Nat := 0x8000000000000000

/-- A number of the format, by its bits. -/
structure Binary where
  bits : UInt64
  deriving DecidableEq

namespace Binary

/-- Whether the sign bit is set. -/
def negative (x : Binary) : Bool := signBit ≤ x.bits.toNat

/-- The bits without the sign. -/
def unsigned (x : Binary) : Nat := x.bits.toNat % signBit

/-- The significand, as a whole number. -/
def significand (x : Binary) : Nat :=
  if x.unsigned < hiddenBit then x.unsigned else x.unsigned % hiddenBit + hiddenBit

/-- The power of two that scales the significand, less the least one, −1074. -/
def scale (x : Binary) : Nat := x.unsigned / hiddenBit - 1

/-- The magnitude times `2 ^ 1074`, which is a whole number. -/
def scaledMagnitude (x : Binary) : Nat := x.significand * Nat.pow 2 x.scale

/-- The least bits, the sign apart, that stand for no finite number. -/
def infinityBits : Nat := 2047 * hiddenBit

/-- The number with the given sign and unsigned bits. -/
def ofParts (negative : Bool) (unsigned : Nat) : Binary :=
  ⟨UInt64.ofNat (unsigned + if negative then signBit else 0)⟩

/-- Quotient of naturals, rounded to nearest with an exact half going to the even neighbour. -/
def roundDiv (num den : Nat) : Nat :=
  let q := num / den
  let twice := 2 * (num % den)
  if den < twice || (twice == den && q % 2 == 1) then q + 1 else q

/-- The greatest `k` with `den * 2 ^ k ≤ num`, both being positive. -/
def floorLog (num den : Nat) : Int :=
  let k : Int := (num.log2 : Int) - den.log2
  if den * Nat.pow 2 k.toNat ≤ num * Nat.pow 2 (-k).toNat then k else k - 1

/-- The finite number nearest to a quotient, if the quotient does not round past all of them. -/
def ofRatio? (negative : Bool) (num den : Nat) : Option Binary :=
  if num == 0 then some (ofParts negative 0)
  else
    let e := max (floorLog num den - 52) (-1074)
    let q := roundDiv (num * Nat.pow 2 (-e).toNat) (den * Nat.pow 2 e.toNat)
    let unsigned := (e + 1074).toNat * hiddenBit + q
    if unsigned < infinityBits then some (ofParts negative unsigned) else none

/-- The product of two magnitudes, rounded. -/
def mul? (x y : Binary) : Option Binary :=
  ofRatio? false (x.scaledMagnitude * y.scaledMagnitude) (Nat.pow 2 2148)

/-- The quotient of two magnitudes, rounded. -/
def div? (x y : Binary) : Option Binary :=
  ofRatio? false x.scaledMagnitude y.scaledMagnitude

end Binary

end Outbox.Decimal
