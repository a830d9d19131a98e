import Outbox.Json.Tree
import Outbox.Text.Hex
import Outbox.Text.Utf8

/-!
# Reading JSON texts

A strict reader: no blanks but space, tab, return and line feed, no leading zeros, no bare controls
in strings, nothing after the value.  It works on scalar values, with `none` where bytes form no
character (`Text.Utf8.scalars`); that is a fault everywhere except inside a string.
-/

namespace Outbox.Json

open Outbox.Decimal

/-- Characters, with `none` for a part that is none. -/
abbrev Scalars := List (Option Char)

/-- The four blanks of the grammar. -/
def isGap (c : Option Char) : Bool :=
  c == some ' ' || c == some '\n' || c == some '\t' || c == some '\r'

/-- What follows the leading blanks. -/
def skipGaps (s : Scalars) : Scalars := s.dropWhile isGap

/-! ### Numerals -/

/-- The leading digits and what follows them. -/
def takeDigits : Scalars → List Char × Scalars
  | some c :: s =>
    if c.isDigit then
      let (ds, rest) := takeDigits s
      (c :: ds, rest)
    else ([], some c :: s)
  | s => ([], s)

/-- A fraction, if a point follows. -/
def takeFraction : Scalars → Option (List Char × Scalars)
  | some '.' :: s =>
    match takeDigits s with
    | ([], _) => none
    | (ds, rest) => some (ds, rest)
  | s => some ([], s)

/-- An exponent, if its mark follows. -/
def takeExponent (s : Scalars) : Option (Option (Bool × List Char) × Scalars) :=
  let digitsOf (negative : Bool) (s : Scalars) :=
    match takeDigits s with
    | ([], _) => none
    | (ds, rest) => some (some (negative, ds), rest)
  let signed : Scalars → Option (Option (Bool × List Char) × Scalars)
    | some '-' :: s => digitsOf true s
    | some '+' :: s => digitsOf false s
    | s => digitsOf false s
  match s with
  | some 'e' :: s => signed s
  | some 'E' :: s => signed s
  | s => some (none, s)

/-- A numeral: no leading zero before other digits, and digits wherever a part begins. -/
def takeNumeral (s : Scalars) : Option (Numeral × Scalars) := do
  let (negative, s) := match s with
    | some '-' :: s => (true, s)
    | s => (false, s)
  let (whole, s) := takeDigits s
  if whole.isEmpty || (whole.head? == some '0' && 1 < whole.length) then none
  else
    let (fraction, s) ← takeFraction s
    let (exponent, s) ← takeExponent s
    some (⟨negative, whole, fraction, exponent⟩, s)

/-! ### Strings -/

/-- A character of a string, or a unit given by number. -/
inductive Piece
  | scalar (c : Option Char)
  | unit (n : Nat)

/-- The value of four hexadecimal digits. -/
def hexUnit? (a b c d : Option Char) : Option Nat :=
  ([a, b, c, d].mapM id).bind Text.Hex.ofDigits?

/-- The character of a short escape. -/
def shortEscape? (c : Char) : Option Char :=
  match c with
  | '"' => some '"'
  | '\\' => some '\\'
  | '/' => some '/'
  | 'b' => some '\x08'
  | 'f' => some '\x0c'
  | 'n' => some '\n'
  | 'r' => some '\r'
  | 't' => some '\t'
  | _ => none

/-- The pieces up to the closing quote, and what follows it. -/
def takePieces : Scalars → Option (List Piece × Scalars)
  | [] => none
  | some '\\' :: some 'u' :: a :: b :: c :: d :: s => do
    let n ← hexUnit? a b c d
    let (ps, rest) ← takePieces s
    some (.unit n :: ps, rest)
  | some '\\' :: some c :: s => do
    let e ← shortEscape? c
    let (ps, rest) ← takePieces s
    some (.scalar (some e) :: ps, rest)
  | some '\\' :: _ => none
  | some '"' :: s => some ([], s)
  | c :: s =>
    if (c.map fun c => decide (c.toNat < 0x20)) == some true then none
    else do
      let (ps, rest) ← takePieces s
      some (.scalar c :: ps, rest)

/-- A unit that opens a pair. -/
def isHighUnit (n : Nat) : Bool := 0xd800 ≤ n && n < 0xdc00

/-- A unit that closes a pair. -/
def isLowUnit (n : Nat) : Bool := 0xdc00 ≤ n && n < 0xe000

/-- Joins pairs of units to characters; a unit of a pair that stands alone is no character. -/
def joinUnits : List Piece → Scalars
  | [] => []
  | .unit h :: .unit l :: ps =>
    if isHighUnit h && isLowUnit l then
      some (Char.ofNat (0x10000 + (h - 0xd800) * 0x400 + (l - 0xdc00))) :: joinUnits ps
    else if isHighUnit h || isLowUnit h then none :: joinUnits (.unit l :: ps)
    else some (Char.ofNat h) :: joinUnits (.unit l :: ps)
  | .unit n :: ps =>
    (if isHighUnit n || isLowUnit n then none else some (Char.ofNat n)) :: joinUnits ps
  | .scalar c :: ps => c :: joinUnits ps

/-- The rest of a string after its opening quote. -/
def takeString (s : Scalars) : Option (Option String × Scalars) := do
  let (ps, rest) ← takePieces s
  some (((joinUnits ps).mapM id).map String.ofList, rest)

/-! ### Values -/

mutual

/-- A value; `fuel` bounds how often reading goes one level or one element further. -/
def takeValue (fuel : Nat) (s : Scalars) : Option (Tree × Scalars) :=
  match fuel with
  | 0 => none
  | fuel + 1 =>
    match skipGaps s with
    | some 'n' :: some 'u' :: some 'l' :: some 'l' :: s => some (.null, s)
    | some 't' :: some 'r' :: some 'u' :: some 'e' :: s => some (.bool true, s)
    | some 'f' :: some 'a' :: some 'l' :: some 's' :: some 'e' :: s => some (.bool false, s)
    | some '"' :: s => do
      let (t, s) ← takeString s
      some (.string t, s)
    | some '[' :: s =>
      match skipGaps s with
      | some ']' :: s => some (.array [], s)
      | s => do
        let (x, s) ← takeValue fuel s
        let (xs, s) ← takeElements fuel s
        some (.array (x :: xs), s)
    | some '{' :: s =>
      match skipGaps s with
      | some '}' :: s => some (.object [], s)
      | s => do
        let (m, s) ← takeMember fuel s
        let (ms, s) ← takeMembers fuel s
        some (.object (m :: ms), s)
    | s => do
      let (n, s) ← takeNumeral s
      some (.numeral n, s)

/-- The elements after one, up to the closing bracket. -/
def takeElements (fuel : Nat) (s : Scalars) : Option (List Tree × Scalars) :=
  match fuel with
  | 0 => none
  | fuel + 1 =>
    match skipGaps s with
    | some ']' :: s => some ([], s)
    | some ',' :: s => do
      let (x, s) ← takeValue fuel s
      let (xs, s) ← takeElements fuel s
      some (x :: xs, s)
    | _ => none

/-- A name, a colon and a value. -/
def takeMember (fuel : Nat) (s : Scalars) : Option ((Option String × Tree) × Scalars) :=
  match fuel with
  | 0 => none
  | fuel + 1 =>
    match skipGaps s with
    | some '"' :: s => do
      let (k, s) ← takeString s
      match skipGaps s with
      | some ':' :: s => do
        let (x, s) ← takeValue fuel s
        some ((k, x), s)
      | _ => none
    | _ => none

/-- The members after one, up to the closing brace. -/
def takeMembers (fuel : Nat) (s : Scalars) : Option (List (Option String × Tree) × Scalars) :=
  match fuel with
  | 0 => none
  | fuel + 1 =>
    match skipGaps s with
    | some '}' :: s => some ([], s)
    | some ',' :: s => do
      let (m, s) ← takeMember fuel s
      let (ms, s) ← takeMembers fuel s
      some (m :: ms, s)
    | _ => none

end

/-- The tree of a text that holds one value and nothing else. -/
def readScalars (s : Scalars) : Option Tree :=
  match takeValue (2 * s.length + 2) s with
  | some (t, rest) => if (skipGaps rest).isEmpty then some t else none
  | none => none

/-- The tree of a byte sequence. -/
def readBytes (bytes : List UInt8) : Option Tree := readScalars (Text.Utf8.scalars bytes)

/-- How deep the values of a text may nest. -/
def depthLimit : Nat := 127

/-- The value of a text. -/
def ofText? (s : String) : Option Json :=
  (readScalars (s.toList.map some)).bind (Tree.value? depthLimit)

end Outbox.Json
