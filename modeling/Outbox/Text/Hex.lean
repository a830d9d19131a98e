/-!
# Hexadecimal numerals

Digits to the base sixteen: written in lower case, read in either case.  Identifiers, the escapes of
JSON strings and bytes given as text are all made of them.

* `ofDigits?_digits` — the digits of a number below `16 ^ width` read back as that number.
-/

namespace Outbox.Text.Hex

/-- The digit of a value below sixteen. -/
def digit (n : Nat) : Char :=
  if n < 10 then Char.ofNat (48 + n) else Char.ofNat (87 + n)

/-- The value of a digit in either case. -/
def value? (c : Char) : Option Nat :=
  let n := c.toNat
  if 48 ≤ n ∧ n ≤ 57 then some (n - 48)
  else if 97 ≤ n ∧ n ≤ 102 then some (n - 87)
  else if 65 ≤ n ∧ n ≤ 70 then some (n - 55)
  else none

/-- The lowest `width` digits of a number, the highest of them first. -/
def digits : Nat → Nat → List Char
  | 0, _ => []
  | width + 1, n => digits width (n / 16) ++ [digit (n % 16)]

/-- The number that digits continue from `n`. -/
def ofDigitsFrom? : Nat → List Char → Option Nat
  | n, [] => some n
  | n, c :: cs => (value? c).bind fun d => ofDigitsFrom? (n * 16 + d) cs

/-- The number that digits stand for. -/
def ofDigits? (cs : List Char) : Option Nat := ofDigitsFrom? 0 cs

/-- The bytes that pairs of digits stand for. -/
def bytes? : List Char → Option (List UInt8)
  | [] => some []
  | [_] => none
  | a :: b :: rest => do
    let n ← ofDigits? [a, b]
    let bytes ← bytes? rest
    some (UInt8.ofNat n :: bytes)

/-! ### Reading what was written -/

theorem value?_digit : ∀ n < 16, value? (digit n) = some n := by decide

theorem length_digits (width n : Nat) : (digits width n).length = width := by
  induction width generalizing n with
  | zero => rfl
  | succ width ih => simp [digits, ih]

theorem ofDigitsFrom?_append (n : Nat) (cs ds : List Char) :
    ofDigitsFrom? n (cs ++ ds) = (ofDigitsFrom? n cs).bind fun m => ofDigitsFrom? m ds := by
  induction cs generalizing n with
  | nil => rfl
  | cons c cs ih =>
    cases h : value? c with
    | none => simp [ofDigitsFrom?, h]
    | some d => simp [ofDigitsFrom?, h, ih]

theorem ofDigitsFrom?_digits (width m n : Nat) :
    ofDigitsFrom? m (digits width n) =
      some (m * Nat.pow 16 width + n % Nat.pow 16 width) := by
  induction width generalizing n with
  | zero =>
    show some m = some (m * 1 + n % 1)
    rw [Nat.mul_one, Nat.mod_one, Nat.add_zero]
  | succ width ih =>
    have hd : value? (digit (n % 16)) = some (n % 16) :=
      value?_digit _ (Nat.mod_lt _ (by decide))
    have hpow : Nat.pow 16 (width + 1) = Nat.pow 16 width * 16 := rfl
    rw [digits, ofDigitsFrom?_append, ih, hpow]
    generalize Nat.pow 16 width = p
    have hsplit : n % (p * 16) = n / 16 % p * 16 + n % 16 := by
      rw [Nat.mul_comm, Nat.mod_mul]
      omega
    simp only [Option.bind_some, ofDigitsFrom?, hd]
    rw [hsplit, Nat.add_mul, Nat.mul_assoc, Nat.add_assoc]

/-- The digits of a number below `16 ^ width` read back as that number. -/
theorem ofDigits?_digits {width n : Nat} (h : n < Nat.pow 16 width) :
    ofDigits? (digits width n) = some n := by
  rw [ofDigits?, ofDigitsFrom?_digits, Nat.mod_eq_of_lt h, Nat.zero_mul, Nat.zero_add]

end Outbox.Text.Hex
