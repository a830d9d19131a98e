/-!
# Bounded decimal integers

Reading a decimal integer into a fixed range.  A plus sign is always allowed, a minus sign only
where the range has negative numbers.  Characters are taken from the left, so of a bad character and
an overflow the one that comes first is reported.
-/

namespace Outbox.Decimal

/-- The numbers a setting may take. -/
structure IntegerRange where
  least : Int
  greatest : Int
  deriving DecidableEq

namespace IntegerRange

/-- Unsigned, 16 bits. -/
def word16 : IntegerRange := ⟨0, 0xffff⟩

/-- Unsigned, 32 bits. -/
def word32 : IntegerRange := ⟨0, 0xffffffff⟩

/-- Unsigned, 64 bits. -/
def word64 : IntegerRange := ⟨0, 0xffffffffffffffff⟩

/-- Two's complement, 64 bits. -/
def signed64 : IntegerRange := ⟨-0x8000000000000000, 0x7fffffffffffffff⟩

end IntegerRange

/-- Why a text is no integer of the range. -/
inductive IntegerError
  | empty
  | invalidDigit
  | tooLarge
  | tooSmall
  deriving DecidableEq

/-- The text of a refusal. -/
def IntegerError.message : IntegerError → String
  | .empty => "cannot parse integer from empty string"
  | .invalidDigit => "invalid digit found in string"
  | .tooLarge => "number too large to fit in target type"
  | .tooSmall => "number too small to fit in target type"

/-- The value of a decimal digit. -/
def digitValue (c : Char) : Nat := c.toNat - '0'.toNat

/-- The value of a list of digits, continuing from `n`. -/
def ofDigitsFrom (n : Nat) (ds : List Char) : Nat :=
  ds.foldl (fun n d => n * 10 + digitValue d) n

/-- The value of a list of digits. -/
def ofDigits (ds : List Char) : Nat := ofDigitsFrom 0 ds

/-- Continues a magnitude with digits, and stops where it passes the limit. -/
def readMagnitude (limit : Nat) (overflow : IntegerError) :
    Nat → List Char → Except IntegerError Nat
  | n, [] => .ok n
  | n, c :: cs =>
    if !c.isDigit then .error .invalidDigit
    else
      let n := n * 10 + digitValue c
      if n ≤ limit then readMagnitude limit overflow n cs else .error overflow

/-- Reads an integer of the range. -/
def readInteger (range : IntegerRange) (cs : List Char) : Except IntegerError Int :=
  match cs with
  | [] => .error .empty
  | '+' :: ds =>
    if ds.isEmpty then .error .invalidDigit
    else (readMagnitude range.greatest.toNat .tooLarge 0 ds).map Int.ofNat
  | '-' :: ds =>
    if ds.isEmpty || 0 ≤ range.least then .error .invalidDigit
    else (readMagnitude (-range.least).toNat .tooSmall 0 ds).map fun n => -(n : Int)
  | ds => (readMagnitude range.greatest.toNat .tooLarge 0 ds).map Int.ofNat

/-- The decimal digits of a number, without leading zeros. -/
def digits (n : Nat) : List Char := Nat.toDigits 10 n

/-- The decimal digits of a number, with zeros in front up to a width. -/
def padded (width n : Nat) : List Char :=
  List.replicate (width - (digits n).length) '0' ++ digits n

end Outbox.Decimal
