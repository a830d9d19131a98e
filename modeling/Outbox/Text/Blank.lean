/-!
# Blank characters

The Unicode property `White_Space`, and trimming by it.  A setting that holds blanks only counts as
not given, numbers are read after trimming, and the readers of dates skip blanks at some places.
-/

namespace Outbox.Text

/-- The Unicode property White_Space. -/
def isBlank (c : Char) : Bool :=
  let n := c.toNat
  (0x9 ≤ n && n ≤ 0xd) || n == 0x20 || n == 0x85 || n == 0xa0 || n == 0x1680 ||
    (0x2000 ≤ n && n ≤ 0x200a) || n == 0x2028 || n == 0x2029 || n == 0x202f || n == 0x205f ||
    n == 0x3000

/-- What follows the leading blanks. -/
def trimStart (cs : List Char) : List Char := cs.dropWhile isBlank

/-- What stands between the leading and the trailing blanks. -/
def trim (cs : List Char) : List Char := (trimStart (trimStart cs).reverse).reverse

/-- Whether a text has nothing but blanks. -/
def allBlank (cs : List Char) : Bool := cs.all isBlank

end Outbox.Text
