/-!
# UTF-8

Bytes are read into scalar values; `none` stands for a maximal part that belongs to no character.
A text is well formed when no such part occurs (`decode?`), and `decodeLossy` writes the
replacement character for each.
-/

namespace Outbox.Text.Utf8

/-- A continuation byte within the bounds that the lead byte sets. -/
def isContinuation (low high : Nat) (b : UInt8) : Bool := low ≤ b.toNat && b.toNat ≤ high

/-- The bounds of the second byte and the number of continuation bytes, for a lead byte of a
sequence of two to four bytes. -/
def leadShape (b : Nat) : Option (Nat × Nat × Nat) :=
  if 0xc2 ≤ b && b ≤ 0xdf then some (0x80, 0xbf, 1)
  else if b == 0xe0 then some (0xa0, 0xbf, 2)
  else if b == 0xed then some (0x80, 0x9f, 2)
  else if 0xe1 ≤ b && b ≤ 0xef then some (0x80, 0xbf, 2)
  else if b == 0xf0 then some (0x90, 0xbf, 3)
  else if 0xf1 ≤ b && b ≤ 0xf3 then some (0x80, 0xbf, 3)
  else if b == 0xf4 then some (0x80, 0x8f, 3)
  else none

/-- The value bits of a lead byte with the given number of continuation bytes. -/
def leadBits (b count : Nat) : Nat :=
  if count == 1 then b % 32 else if count == 2 then b % 16 else b % 8

/-- State of the reader between two bytes: the value so far, how many continuation bytes are
missing, and the bounds of the next one. -/
structure Pending where
  value : Nat
  missing : Nat
  low : Nat
  high : Nat

/-- Starts a character at a byte: a scalar, a part that begins no character, or a sequence. -/
def start (b : UInt8) : Option Char ⊕ Pending :=
  if b.toNat < 0x80 then .inl (some (Char.ofNat b.toNat))
  else match leadShape b.toNat with
    | none => .inl none
    | some (low, high, count) => .inr ⟨leadBits b.toNat count, count, low, high⟩

/-- Reads bytes into scalar values, one `none` for each maximal part that forms no character. -/
def scalarsFrom : Option Pending → List UInt8 → List (Option Char)
  | none, [] => []
  | some _, [] => [none]
  | none, b :: bs =>
    match start b with
    | .inl c => c :: scalarsFrom none bs
    | .inr p => scalarsFrom (some p) bs
  | some p, b :: bs =>
    if isContinuation p.low p.high b then
      let value := p.value * 64 + b.toNat % 64
      if p.missing ≤ 1 then some (Char.ofNat value) :: scalarsFrom none bs
      else scalarsFrom (some ⟨value, p.missing - 1, 0x80, 0xbf⟩) bs
    else
      match start b with
      | .inl c => none :: c :: scalarsFrom none bs
      | .inr q => none :: scalarsFrom (some q) bs

/-- The scalar values of a byte sequence. -/
def scalars (bytes : List UInt8) : List (Option Char) := scalarsFrom none bytes

/-- The text of a byte sequence, if all of it is text. -/
def decode? (bytes : List UInt8) : Option String :=
  ((scalars bytes).mapM id).map String.ofList

/-- The text of a byte sequence, with U+FFFD for each part that is none. -/
def decodeLossy (bytes : List UInt8) : String :=
  String.ofList ((scalars bytes).map fun c => c.getD '\ufffd')

/-- Where bytes stop being text: the position, and the length of the part that belongs to no
character, unless the bytes end in the middle of one. -/
structure Fault where
  position : Nat
  length : Option Nat
  deriving DecidableEq

/-- The wording of a fault. -/
def Fault.message (f : Fault) : String :=
  match f.length with
  | some n =>
    "invalid utf-8 sequence of " ++ toString n ++ " bytes from index " ++ toString f.position
  | none => "incomplete utf-8 byte sequence from index " ++ toString f.position

/-- The first fault from a position on; `pending` holds where the character began that a position is
in the middle of. -/
def faultFrom (position : Nat) : Option (Nat × Pending) → List UInt8 → Option Fault
  | none, [] => none
  | some (began, _), [] => some ⟨began, none⟩
  | none, b :: bs =>
    match start b with
    | .inl (some _) => faultFrom (position + 1) none bs
    | .inl none => some ⟨position, some 1⟩
    | .inr p => faultFrom (position + 1) (some (position, p)) bs
  | some (began, p), b :: bs =>
    if isContinuation p.low p.high b then
      faultFrom (position + 1)
        (if p.missing ≤ 1 then none else some (began, ⟨0, p.missing - 1, 0x80, 0xbf⟩)) bs
    else some ⟨began, some (position - began)⟩

/-- The first fault of bytes that are no text. -/
def fault? (bytes : List UInt8) : Option Fault := faultFrom 0 none bytes

/-- The bytes of a text. -/
def encode (s : String) : List UInt8 := s.toUTF8.toList

/-- The number of bytes of a list of characters. -/
def byteLength : List Char → Nat
  | [] => 0
  | c :: cs => c.utf8Size + byteLength cs

/-- Cuts a text after so many bytes; nothing where that is within a character or past the end. -/
def splitAt? : Nat → List Char → Option (List Char × List Char)
  | 0, cs => some ([], cs)
  | _ + 1, [] => none
  | n + 1, c :: cs =>
    if c.utf8Size ≤ n + 1 then
      (splitAt? (n + 1 - c.utf8Size) cs).map fun halves => (c :: halves.1, halves.2)
    else none

end Outbox.Text.Utf8
