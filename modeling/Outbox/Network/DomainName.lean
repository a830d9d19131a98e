import Outbox.Text.Pieces

/-!
# Domain names

The names that a resolver asks for.  A name is made of labels with dots between them and perhaps one
at the end; a label has up to 63 letters, digits, hyphens and underscores, the name takes up to 255
bytes when it is sent, and it does not begin with a hyphen.  A backslash stands before a character
that is meant as it is, or before its number in three digits.
-/

namespace Outbox.Network.DomainName

open Outbox.Text

/-- A character of a label. -/
def isLabelChar (c : Char) : Bool := c.isAlphanum || c == '-' || c == '_'

/-- The character that three digits number, if it may stand in a label. -/
def numbered? (a b c : Char) : Option Char :=
  let value (d : Char) : Nat := d.toNat - '0'.toNat
  let ch := Char.ofNat (value a * 100 + value b * 10 + value c)
  if a.isDigit && b.isDigit && c.isDigit && isLabelChar ch then some ch else none

/-- A name without its backslashes; nothing where one is followed by what cannot stand in a label. -/
def unescape? : List Char → Option (List Char)
  | [] => some []
  | ['\\'] => none
  | '\\' :: c :: cs =>
    if c.isDigit then
      match cs with
      | d :: e :: rest => do
        let ch ← numbered? c d e
        let rest ← unescape? rest
        some (ch :: rest)
      | _ => none
    else if isLabelChar c then (unescape? cs).map (c :: ·)
    else none
  | c :: cs => (unescape? cs).map (c :: ·)

/-- The labels of a name; a dot at the end begins none. -/
def labels (cs : List Char) : List (List Char) :=
  let parts := pieces (· == '.') cs
  if parts.getLast? = some [] then parts.dropLast else parts

/-- A label that may be asked for. -/
def isLabel (l : List Char) : Bool := !l.isEmpty && l.length ≤ 63 && l.all isLabelChar

/-- The bytes that labels take, each with its length in front. -/
def wireLength : List (List Char) → Nat
  | [] => 1
  | l :: ls => l.length + 1 + wireLength ls

/-- Whether a name may be asked for; a dot alone is the root. -/
def isValid (cs : List Char) : Bool :=
  match unescape? cs with
  | none => false
  | some name =>
    let ls := labels name
    name == ['.'] ||
      (!ls.isEmpty && ls.all isLabel && wireLength ls ≤ 255 && name.head? != some '-')

end Outbox.Network.DomainName
