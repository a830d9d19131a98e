import Outbox.Uuid.Basic
import Outbox.Text.Hex
import Outbox.Text.Utf8

/-!
# The text of an identifier

An identifier is written as 32 hexadecimal digits in lower case, in groups of 8, 4, 4, 4 and 12
(`text`).  It is read in four spellings and either case (`parse`): the bare digits, the groups, the
groups in braces, and the groups after `urn:uuid:`.  A text in none of them is refused with the
first fault that shows when it is looked at as groups of digits.
-/

namespace Outbox.Uuid

open Outbox.Text

/-! ### Writing -/

/-- Digits cut into groups with hyphens between them. -/
def grouped (ds : List Char) : List Char :=
  ds.take 8 ++ '-' :: (ds.drop 8).take 4 ++ '-' :: (ds.drop 12).take 4 ++
    '-' :: (ds.drop 16).take 4 ++ '-' :: ds.drop 20

/-- The characters of the written form. -/
def chars (u : Uuid) : List Char := grouped (Hex.digits 32 u.value)

/-- The written form. -/
def text (u : Uuid) : String := String.ofList u.chars

/-! ### Reading -/

/-- Why a text is no identifier; positions and lengths count bytes. -/
inductive ParseError
  | length (found : Nat)
  | character (found : Char) (position : Nat)
  | groupCount (found : Nat)
  | groupLength (group expected found : Nat)
  deriving DecidableEq

/-- The wording of a refusal. -/
def ParseError.message : ParseError → String
  | .length n => "invalid length: found " ++ toString n
  | .character c i =>
    "invalid character: found " ++ String.ofList ['`', c, '`'] ++ " at " ++ toString i
  | .groupCount n => "invalid group count: expected 5, found " ++ toString n
  | .groupLength g e n =>
    "invalid group length in group " ++ toString g ++ ": expected " ++ toString e ++
      ", found " ++ toString n

/-- Reads 32 digits. -/
def ofBare? (cs : List Char) : Option Uuid :=
  if cs.length = 32 then (Hex.ofDigits? cs).map ofNat else none

/-- Reads five groups of digits. -/
def ofGroups? (cs : List Char) : Option Uuid :=
  let ds := cs.take 8 ++ (cs.drop 9).take 4 ++ (cs.drop 14).take 4 ++ (cs.drop 19).take 4 ++
    cs.drop 24
  if grouped ds = cs then ofBare? ds else none

/-- The marker in front of the groups in the third spelling. -/
def urnMarker : List Char := ['u', 'r', 'n', ':', 'u', 'u', 'i', 'd', ':']

/-- What stands between a first brace and a last one. -/
def unbrace? : List Char → Option (List Char)
  | '{' :: cs =>
    match cs.reverse with
    | '}' :: inner => some inner.reverse
    | _ => none
  | _ => none

/-- What follows the marker, in any case of its letters. -/
def afterUrn? (cs : List Char) : Option (List Char) :=
  if (cs.take 9).map Char.toLower = urnMarker then some (cs.drop 9) else none

/-- The first character that is neither a digit nor a hyphen, with its position. -/
def strayFrom (position : Nat) : List Char → Option (Char × Nat)
  | [] => none
  | c :: cs =>
    if (Hex.value? c).isSome || c == '-' then strayFrom (position + c.utf8Size) cs
    else some (c, position)

/-- Offsets of the hyphens, counted from the first character. -/
def hyphensFrom (position : Nat) : List Char → List Nat
  | [] => []
  | c :: cs =>
    if c == '-' then position :: hyphensFrom (position + 1) cs
    else hyphensFrom (position + c.utf8Size) cs

/-- The first group that does not end where it should: number, length due and length found. -/
def wrongGroup : Nat → List (Nat × Nat × Nat) → Option (Nat × Nat × Nat)
  | _, [] => none
  | g, (start, due, hyphen) :: rest =>
    if hyphen = start + due then wrongGroup (g + 1) rest else some (g, due, hyphen - start)

/-- The first fault of a text, looked at as groups of digits.  `whole` says that the text came as it
is and has not the length of five groups: only then do braces and marker stand aside, and only then
may it have been meant as bare digits. -/
def fault (whole : Bool) (cs : List Char) : ParseError :=
  let size := Utf8.byteLength cs
  if size = 0 ∨ 45 < size then .length size
  else
    let (inner, start, bare) :=
      match whole, unbrace? cs, afterUrn? cs with
      | true, some inner, _ => (inner, 1, false)
      | true, none, some inner => (inner, 9, false)
      | true, none, none => (cs, 0, true)
      | false, _, _ => (cs, 0, false)
    match strayFrom start inner with
    | some (c, i) => .character c i
    | none =>
      let hyphens := hyphensFrom 0 inner
      if hyphens.isEmpty && bare then .length size
      else
        match hyphens with
        | [a, b, c, d] =>
          match wrongGroup 0 [(0, 8, a), (9, 4, b), (14, 4, c), (19, 4, d)] with
          | some (g, e, n) => .groupLength g e n
          | none => .groupLength 4 12 (size - 24)
        | hs => .groupCount (hs.length + 1)

/-- Reads an identifier in any of its spellings. -/
def parse (cs : List Char) : Except ParseError Uuid :=
  let size := Utf8.byteLength cs
  let groups (whole : Bool) (cs : List Char) : Except ParseError Uuid :=
    match ofGroups? cs with
    | some u => .ok u
    | none => .error (fault whole cs)
  if size = 36 then groups false cs
  else if size = 32 then
    match ofBare? cs with
    | some u => .ok u
    | none => .error (fault true cs)
  else
    match if size = 38 then unbrace? cs else if size = 45 then afterUrn? cs else none with
    | some inner => groups false inner
    | none => .error (fault true cs)

/-- Reads an identifier from a text. -/
def ofText (s : String) : Except ParseError Uuid := parse s.toList

/-- Reads an identifier, without the reason of a failure. -/
def ofText? (s : String) : Option Uuid := (ofText s).toOption

end Outbox.Uuid
