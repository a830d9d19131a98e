/-!
# Control sequences

What steers a terminal has no place in a text that is kept or passed on: an escape character with
all that belongs to it, and every control character except the blank ones.  `strip` leaves the rest.

A sequence ends with a character of its own, depending on how it began.  A blank control character
inside one is shown at once, and what follows it as well; the sequence goes on only at the next
control character.
-/

namespace Outbox.Text

/-- Tab, line feed, form feed and carriage return. -/
def isBlankControl (c : Char) : Bool := c == '\t' || c == '\n' || c == '\x0c' || c == '\r'

/-- A character that belongs to the text where no sequence is open. -/
def isShown (c : Char) : Bool := isBlankControl c || (0x20 ≤ c.toNat && c.toNat != 0x7f)

/-- Whether one of the bytes of a character is the one that ends a string. -/
def holdsTerminator (c : Char) : Bool := (String.utf8EncodeChar c).any (· == 0x9c)

/-- The sequence that a text is in the middle of. -/
inductive Sequence
  /-- None: ordinary text. -/
  | text
  /-- An escape character. -/
  | escape
  /-- An escape character and signs that its last one is still to follow. -/
  | escapeSigns
  /-- A control sequence, with its parameters. -/
  | control
  /-- A command for the system around the terminal. -/
  | command
  /-- The head of a device control: nothing yet, parameters, or signs. -/
  | device
  | deviceParameters
  | deviceSigns
  /-- The string of a device control, or one that means nothing. -/
  | string
  deriving DecidableEq

namespace Sequence

/-- Whether a character is shown that comes in the middle of a sequence. -/
def admits : Sequence → Char → Bool
  | .text, c => isShown c
  | .escape, c | .escapeSigns, c | .control, c => isBlankControl c
  | _, _ => false

/-- What an escape character and the next one begin. -/
def ofEscape (c : Char) : Sequence :=
  if c == '[' then .control
  else if c == ']' then .command
  else if c == 'P' then .device
  else if c == 'X' || c == '^' || c == '_' then .string
  else if 0x20 ≤ c.toNat && c.toNat ≤ 0x2f then .escapeSigns
  else if 0x30 ≤ c.toNat && c.toNat ≤ 0x7e then .text
  else .escape

/-- The sequence after a character that is not shown. -/
def after (s : Sequence) (c : Char) : Sequence :=
  let n := c.toNat
  if n == 0x18 || n == 0x1a then .text
  else if n == 0x1b then .escape
  else
    match s with
    | .text => .text
    | .escape => ofEscape c
    | .escapeSigns => if 0x30 ≤ n && n ≤ 0x7e then .text else .escapeSigns
    | .control => if 0x40 ≤ n && n ≤ 0x7e then .text else .control
    | .command => if n == 0x07 then .text else .command
    | .device =>
      if 0x20 ≤ n && n ≤ 0x2f then .deviceSigns
      else if 0x30 ≤ n && n ≤ 0x3f then .deviceParameters
      else if 0x40 ≤ n && n ≤ 0x7e then .string
      else .device
    | .deviceParameters =>
      if 0x20 ≤ n && n ≤ 0x2f then .deviceSigns
      else if 0x3c ≤ n && n ≤ 0x7e then .string
      else .deviceParameters
    | .deviceSigns => if 0x30 ≤ n && n ≤ 0x7e then .string else .deviceSigns
    | .string => if holdsTerminator c then .text else .string

end Sequence

/-- Strips a text that begins in the middle of a sequence; `shown` says that the character before it
was shown. -/
def stripFrom : Sequence → Bool → List Char → List Char
  | _, _, [] => []
  | s, shown, c :: cs =>
    if (if shown then isShown c else s.admits c) then
      c :: stripFrom (if 0x80 ≤ c.toNat then .text else s) true cs
    else stripFrom (s.after c) false cs

/-- A text without control sequences. -/
def strip (cs : List Char) : List Char := stripFrom .text false cs

end Outbox.Text
