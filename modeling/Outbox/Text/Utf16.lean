/-!
# UTF-16

Text in units of sixteen bits, each written as two bytes in one of two orders.  A character beyond the
first 65536 is two units, a leading and a trailing one, and neither may stand alone.
-/

namespace Outbox.Text.Utf16

/-- The order of the two bytes of a unit. -/
inductive ByteOrder
  | highFirst
  | lowFirst
  deriving DecidableEq

/-- The unit of two bytes. -/
def ByteOrder.unit (o : ByteOrder) (a b : UInt8) : Nat :=
  match o with
  | .highFirst => a.toNat * 256 + b.toNat
  | .lowFirst => b.toNat * 256 + a.toNat

/-- The units of bytes, and whether a byte is left over. -/
def unitsOf (o : ByteOrder) : List UInt8 → List Nat × Bool
  | [] => ([], false)
  | [_] => ([], true)
  | a :: b :: bytes =>
    let (us, isCut) := unitsOf o bytes
    (o.unit a b :: us, isCut)

/-- The first half of a character. -/
def isLeading (u : Nat) : Bool := 0xd800 ≤ u && u < 0xdc00

/-- The second half of a character. -/
def isTrailing (u : Nat) : Bool := 0xdc00 ≤ u && u < 0xe000

/-- The character of two halves. -/
def joined (l t : Nat) : Char := Char.ofNat (0x10000 + (l - 0xd800) * 0x400 + (t - 0xdc00))

/-- Reads units, with U+FFFD for each half that stands alone and for what is cut at the end; `half` is
a leading one that was read. -/
def ofUnits (isCut : Bool) : Option Nat → List Nat → List Char
  | none, [] => if isCut then ['\ufffd'] else []
  | some _, [] => ['\ufffd']
  | none, u :: us =>
    if isLeading u then ofUnits isCut (some u) us
    else if isTrailing u then '\ufffd' :: ofUnits isCut none us
    else Char.ofNat u :: ofUnits isCut none us
  | some l, u :: us =>
    if isTrailing u then joined l u :: ofUnits isCut none us
    else if isLeading u then '\ufffd' :: ofUnits isCut (some u) us
    else '\ufffd' :: Char.ofNat u :: ofUnits isCut none us

/-- The text of bytes, with U+FFFD for each part that is none. -/
def decodeLossy (o : ByteOrder) (bytes : List UInt8) : String :=
  let (us, isCut) := unitsOf o bytes
  String.ofList (ofUnits isCut none us)

end Outbox.Text.Utf16
