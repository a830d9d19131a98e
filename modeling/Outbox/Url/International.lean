import Outbox.Text.Direction
import Outbox.Text.Folding
import Outbox.Text.Joining
import Outbox.Text.Normal
import Outbox.Text.Punycode

/-!
# International names

A name with characters beyond ASCII stands for one in ASCII.  Its characters are folded and brought
into normal form, those that only shape the text are left out, and each label that is not in ASCII
then is written in Punycode after a mark of its own.  A label that has the mark already is read, and
what it stands for must be a label that folding leaves as it is.

A label has the characters that the standard for names allows, does not begin with a mark, and has
joiners only where letters are joined.  Where letters run from right to left, all labels have one
direction each.
-/

namespace Outbox.International

open Outbox.Text

/-! ### Characters -/

/-- Characters that only shape the text. -/
def ignoredRanges : List CodeRange := [
  (0xad, 0xad), (0x34f, 0x34f), (0x115f, 0x1160), (0x17b4, 0x17b5), (0x180b, 0x180f),
  (0x200b, 0x200b), (0x2060, 0x2064), (0x206a, 0x206f), (0x3164, 0x3164), (0xfe00, 0xfe0f),
  (0xfeff, 0xfeff), (0xffa0, 0xffa0), (0x1bca0, 0x1bca3), (0x1d173, 0x1d17a), (0xe0100, 0xe01ef)]

/-- A character that only shapes the text; none of ASCII does. -/
def isIgnored (c : Char) : Bool := !Punycode.isAscii c && inRanges ignoredRanges c

/-- Characters that are seen and yet not allowed: those with a full stop in them, those that describe
others, and those that stand for what is no text. -/
def excludedRanges : List CodeRange := [
  (0x2024, 0x2026), (0x2488, 0x249b), (0x2ff0, 0x2fff), (0x31ef, 0x31ef), (0x33c2, 0x33c2),
  (0x33c7, 0x33c7), (0x33d8, 0x33d8), (0xfe12, 0xfe12), (0xfe19, 0xfe19), (0xfe30, 0xfe30),
  (0xfe52, 0xfe52), (0xfffc, 0xfffd), (0x1f100, 0x1f100)]

/-- A character that a name may have; those of ASCII are the matter of the host. -/
def isAllowed (c : Char) : Bool :=
  Punycode.isAscii c || isJoiner c || (isPrintable c && !inRanges excludedRanges c)

/-- The characters that a name stands for: folded, in normal form, and without those that only shape
the text; nothing where one is not allowed. -/
def mapped? (name : List Char) : Option (List Char) :=
  let kept := name.filter fun c => !isIgnored c
  if kept.all isAllowed then some (normal (kept.flatMap fun c => (atoms c).flatMap folded)) else none

/-! ### Labels -/

/-- The mark of a label that is written in Punycode. -/
def mark : List Char := ['x', 'n', '-', '-']

/-- The most characters that a label beyond ASCII may have. -/
def longestLabel : Nat := 1000

/-- The most characters after the mark. -/
def longestNumerals : Nat := 2000

/-- Whether a label beyond ASCII may be so. -/
def isLabel (label : List Char) : Bool :=
  !(label.head?.any isMark) && joinersFit [] label && label.length ≤ longestLabel

/-- The characters that are written after the mark. -/
def readMarked? (numerals : List Char) : Option (List Char) :=
  if numerals.all Punycode.isAscii ∧ numerals.getLast?.any (· != '-') ∧
      numerals.length ≤ longestNumerals then
    (Punycode.read? numerals).filter fun cs =>
      !cs.any isIgnored && mapped? cs == some cs && isLabel cs
  else none

/-- The characters that a label stands for. -/
def read? (label : List Char) : Option (List Char) :=
  if mark.isPrefixOf label then readMarked? (label.drop mark.length)
  else if label.all Punycode.isAscii || isLabel label then some label
  else none

/-- A label in ASCII. -/
def write (label : List Char) : List Char :=
  if label.all Punycode.isAscii then label else mark ++ Punycode.write label

/-! ### Names -/

/-- Whether labels that stand together keep to their directions. -/
def keepDirections (labels : List (List Char)) : Bool :=
  !(labels.any fun l => l.any fun c => (direction c).isRight) || labels.all hasOneDirection

/-- A name in ASCII; nothing where there is no such name. -/
def ofName? (name : List Char) : Option (List Char) := do
  let labels ← (pieces (· == '.') (← mapped? name)).mapM read?
  if keepDirections labels then some (['.'].intercalate (labels.map write)) else none

end Outbox.International
