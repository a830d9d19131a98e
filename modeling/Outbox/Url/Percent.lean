import Outbox.Text.Hex

/-!
# Percent-encoding

A byte that cannot stand in some part of a URL is written as a percent sign and two hexadecimal
digits.  Which ones cannot depends on the part; bytes outside ASCII never can.
-/

namespace Outbox.Percent

open Outbox.Text

/-- The digit of a value below sixteen, in upper case. -/
def digit (n : Nat) : UInt8 := UInt8.ofNat (if n < 10 then 48 + n else 55 + n)

/-- A byte in its encoded form. -/
def encodeByte (b : UInt8) : List UInt8 := [0x25, digit (b.toNat / 16), digit (b.toNat % 16)]

/-- The characters of a part of a URL, encoded where the part asks for it. -/
def encode (set : Char → Bool) (cs : List Char) : List Char :=
  cs.flatMap fun c =>
    if set c || 0x80 ≤ c.toNat then
      ((String.utf8EncodeChar c).flatMap encodeByte).map fun b => Char.ofNat b.toNat
    else [c]

/-- The value of a digit. -/
def value? (b : UInt8) : Option Nat := Hex.value? (Char.ofNat b.toNat)

/-- The bytes that an encoded text stands for; a percent sign without two digits is one of them. -/
def decode : List UInt8 → List UInt8
  | b :: high :: low :: rest =>
    if b = 0x25 then
      match value? high, value? low with
      | some h, some l => UInt8.ofNat (h * 16 + l) :: decode rest
      | _, _ => b :: decode (high :: low :: rest)
    else b :: decode (high :: low :: rest)
  | bs => bs

/-! ### The characters that the parts encode -/

/-- Control characters. -/
def inControls (c : Char) : Bool := c.toNat < 0x20 || c.toNat == 0x7f

/-- In a fragment. -/
def inFragment (c : Char) : Bool :=
  inControls c || c == ' ' || c == '"' || c == '<' || c == '>' || c == '\x60'

/-- In a path. -/
def inPath (c : Char) : Bool :=
  inFragment c || c == '#' || c == '?' || c == '^' || c == '\x7b' || c == '\x7d'

/-- In a query; some schemes encode the apostrophe too. -/
def inQuery (special : Bool) (c : Char) : Bool :=
  inControls c || c == ' ' || c == '"' || c == '<' || c == '>' || c == '#' ||
    (special && c == '\x27')

/-- In the name and the password of a user. -/
def inUser (c : Char) : Bool :=
  inPath c || c == '/' || c == ':' || c == ';' || c == '=' || c == '@' || c == '[' || c == '\\' ||
    c == ']' || c == '|'

end Outbox.Percent
