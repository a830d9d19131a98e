import Outbox.Decimal.Integer
import Outbox.Text.Hex
import Outbox.Text.Pieces
import Outbox.Text.Utf8
import Outbox.Url.International
import Outbox.Url.Percent

/-!
# Hosts

A host is a name or an address, and reading one depends on the scheme.  Under a special scheme the
name is decoded and written in ASCII, and one that ends in a number must be an address of four bytes.
Under any other scheme the name is opaque.  In brackets stands an address of eight pieces.
-/

namespace Outbox

open Outbox.Decimal Outbox.Text

/-- Where a URL points to. -/
inductive Host
  /-- A name, perhaps empty. -/
  | name (text : List Char)
  | ipv4 (value : Nat)
  | ipv6 (pieces : List Nat)
  deriving DecidableEq

namespace Host

/-- Why a text is no host. -/
inductive Fault
  | empty
  | international
  | ipv4
  | ipv6
  | character
  deriving DecidableEq

/-! ### Addresses of four bytes -/

/-- A number of an address: to the base sixteen after `0x`, eight after another zero, and else ten;
nothing where it is none. -/
def number? (cs : List Char) : Option Nat :=
  let octal (ds : List Char) : Option Nat :=
    if ds.all fun d => '0' ≤ d && d ≤ '7' then
      some (ds.foldl (fun n d => n * 8 + digitValue d) 0)
    else none
  match cs with
  | [] => none
  | ['0'] => some 0
  | '0' :: 'x' :: ds | '0' :: 'X' :: ds => Hex.ofDigits? ds
  | '0' :: ds => octal ds
  | ds => if ds.all Char.isDigit then some (ofDigits ds) else none

/-- The parts of a name, without an empty one at the end. -/
def labels (cs : List Char) : List (List Char) :=
  let parts := pieces (· == '.') cs
  if parts.getLast? = some [] then parts.dropLast else parts

/-- Whether a name has the look of an address. -/
def endsInNumber (cs : List Char) : Bool :=
  match (labels cs).getLast? with
  | none => false
  | some l => (!l.isEmpty && l.all Char.isDigit) || (number? l).isSome

/-- The value of numbers of which the last one fills all bytes that are left. -/
def ipv4OfNumbers? : Nat → List Nat → Option Nat
  | _, [] => none
  | left, [n] => if n < Nat.pow 256 left then some n else none
  | left, n :: ns =>
    if n ≤ 255 then (ipv4OfNumbers? (left - 1) ns).map fun m => n * Nat.pow 256 (left - 1) + m
    else none

/-- An address of up to four numbers. -/
def ipv4? (cs : List Char) : Option Nat :=
  let parts := labels cs
  if 4 < parts.length then none else (parts.mapM number?).bind (ipv4OfNumbers? 4)

/-! ### Addresses of eight pieces -/

/-- A piece of one to four digits. -/
def piece? (cs : List Char) : Option Nat :=
  if 1 ≤ cs.length ∧ cs.length ≤ 4 then Hex.ofDigits? cs else none

/-- A byte in decimal, without leading zeros. -/
def byte? (cs : List Char) : Option Nat :=
  if cs ≠ [] ∧ cs.length ≤ 3 ∧ cs.all Char.isDigit ∧ (cs.head? ≠ some '0' ∨ cs = ['0']) ∧
      ofDigits cs ≤ 255 then some (ofDigits cs)
  else none

/-- Four bytes in decimal. -/
def dotted? (cs : List Char) : Option Nat :=
  match (pieces (· == '.') cs).mapM byte? with
  | some [a, b, c, d] => some (((a * 256 + b) * 256 + c) * 256 + d)
  | _ => none

/-- Pieces between colons, the last two of which may be written as four bytes in decimal. -/
def run? : List (List Char) → Option (List Nat)
  | [] => some []
  | [last] =>
    match piece? last with
    | some n => some [n]
    | none => (dotted? last).map fun n => [n / 65536, n % 65536]
  | p :: ps => do
    let n ← piece? p
    let ns ← run? ps
    some (n :: ns)

/-- Pieces of a part of an address; an empty part has none. -/
def part? (cs : List Char) : Option (List Nat) :=
  if cs.isEmpty then some [] else run? (pieces (· == ':') cs)

/-- What stands before and after the first two colons in a row. -/
def abbreviated? : List Char → Option (List Char × List Char)
  | ':' :: ':' :: cs => some ([], cs)
  | c :: cs => (abbreviated? cs).map fun (before, after) => (c :: before, after)
  | [] => none

/-- The pieces of an address; two colons in a row stand for as many zeros as are missing. -/
def expanded? (cs : List Char) : Option (List Nat) :=
  match abbreviated? cs with
  | none => part? cs
  | some (before, after) => do
    let left ← if before.contains '.' then none else part? before
    let right ← part? after
    if left.length + right.length < 8 then
      some (left ++ List.replicate (8 - (left.length + right.length)) 0 ++ right)
    else none

/-- An address of eight pieces. -/
def ipv6? (cs : List Char) : Option (List Nat) :=
  (expanded? cs).filter fun ns => ns.length = 8

/-! ### Names -/

/-- Characters that no host may have. -/
def isForbidden (c : Char) : Bool :=
  c == '\x00' || c == '\t' || c == '\n' || c == '\r' || c == ' ' || c == '#' || c == '/' ||
    c == ':' || c == '<' || c == '>' || c == '?' || c == '@' || c == '[' || c == '\\' ||
    c == ']' || c == '^' || c == '|'

/-- An address in brackets, after the opening one. -/
def bracketed (cs : List Char) : Except Fault Host :=
  match cs.reverse with
  | ']' :: inner =>
    match ipv6? inner.reverse with
    | some ns => .ok (.ipv6 ns)
    | none => .error .ipv6
  | _ => .error .ipv6

/-- Reads the host of a special scheme. -/
def ofSpecial : List Char → Except Fault Host
  | '[' :: cs => bracketed cs
  | cs =>
    let decoded := Utf8.decode? (Percent.decode (Utf8.encode (String.ofList cs)))
    match decoded.bind fun s => International.ofName? s.toList with
    | none => .error .international
    | some cs =>
      if cs.any fun c => isForbidden c || Percent.inControls c || c == '%' then
        .error .international
      else if cs.isEmpty then .error .empty
      else if endsInNumber cs then
        match ipv4? cs with
        | some n => .ok (.ipv4 n)
        | none => .error .ipv4
      else .ok (.name cs)

/-- Reads the host of any other scheme. -/
def ofOpaque : List Char → Except Fault Host
  | '[' :: cs => bracketed cs
  | cs =>
    if cs.any isForbidden then .error .character
    else .ok (.name (Percent.encode Percent.inControls cs))

/-! ### Writing -/

/-- The four bytes of an address. -/
def ipv4Text (n : Nat) : List Char :=
  let byte (k : Nat) := digits (n / Nat.pow 256 k % 256)
  byte 3 ++ '.' :: byte 2 ++ '.' :: byte 1 ++ '.' :: byte 0

/-- The number of zeros that pieces begin with. -/
def zeros (ns : List Nat) : Nat := (ns.takeWhile (· == 0)).length

/-- The longest run of zeros from a position on. -/
def longestZeros : Nat → List Nat → Nat
  | best, [] => best
  | best, n :: ns => longestZeros (max best (zeros (n :: ns))) ns

/-- Pieces with colons between them. -/
def joined : List Nat → List Char
  | [] => []
  | [n] => Nat.toDigits 16 n
  | n :: ns => Nat.toDigits 16 n ++ ':' :: joined ns

/-- Pieces, with two colons in place of the first run of zeros of a length. -/
def abbreviate (length : Nat) : List Nat → List Nat → List Char
  | before, [] => joined before
  | before, n :: ns =>
    if zeros (n :: ns) = length then joined before ++ ':' :: ':' :: joined (ns.drop (length - 1))
    else abbreviate length (before ++ [n]) ns

/-- The text of a host; of an address of eight pieces the first longest run of zeros is left out, if
it has two at least. -/
def text : Host → List Char
  | .name cs => cs
  | .ipv4 n => ipv4Text n
  | .ipv6 ns =>
    let length := longestZeros 0 ns
    '[' :: (if length < 2 then joined ns else abbreviate length [] ns) ++ [']']

end Host

end Outbox
