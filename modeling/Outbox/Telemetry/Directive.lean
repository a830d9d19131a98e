import Outbox.Decimal.Integer
import Outbox.Telemetry.Pattern
import Outbox.Text.Pieces
import Outbox.Text.Utf8

/-!
# Directives

What is reported is said by directives.  A directive is a level, or the name of a target with or
without a level after an equals sign; between them brackets may hold the name of a span and, in
braces, a field with or without a value.

Places in a directive are counted in bytes from its first character that is not blank, and its parts
are cut out of the text with the blanks.  So blanks in front shift all parts, and a part may begin or
end within a character, with which nothing can be done.
-/

namespace Outbox.Telemetry.Directive

open Outbox.Decimal Outbox.Text

/-- Why a text is no directive. -/
inductive Fault
  | form
  | level
  | pattern
  deriving DecidableEq

/-- The wording of a fault. -/
def Fault.message : Fault → String
  | .form => "invalid filter directive"
  | .level =>
    "error parsing level filter: expected one of \"off\", \"error\", \"warn\", \"info\", " ++
      "\"debug\", \"trace\", or a number 0-5"
  | .pattern => "invalid field filter: error building NFA"

/-- What ends the reading of a directive. -/
inductive Stop
  | fault (f : Fault)
  /-- A part begins or ends within a character. -/
  | broken
  deriving DecidableEq

/-! ### Parts -/

/-- The part of a text between two places. -/
def part (text : List Char) (first last : Nat) : Except Stop (List Char) :=
  match Utf8.splitAt? first text with
  | none => .error .broken
  | some (_, rest) =>
    match Utf8.splitAt? (last - first) rest with
    | none => .error .broken
    | some (cs, _) => .ok cs

/-- The levels that have names. -/
def levelNames : List String := ["off", "error", "warn", "info", "debug", "trace"]

/-- Whether a text is a level: a number or a name, in letters of either case. -/
def isLevel (cs : List Char) : Bool :=
  match readInteger .word64 cs with
  | .ok n => n ≤ 5
  | .error _ => levelNames.contains (String.ofList (cs.map Char.toLower))

/-- Checks the level at the end of a directive; none at all is every level. -/
def checkLevel (cs : List Char) : Except Stop Unit :=
  if cs.isEmpty || isLevel cs then .ok () else .error (.fault .level)

/-- What follows the digits of a number, if there are some before the point or after it. -/
def afterDecimal? (cs : List Char) : Option (List Char) :=
  let whole := cs.takeWhile Char.isDigit
  let rest := cs.drop whole.length
  match rest with
  | '.' :: more =>
    let part := more.takeWhile Char.isDigit
    if whole.isEmpty && part.isEmpty then none else some (more.drop part.length)
  | _ => if whole.isEmpty then none else some rest

/-- What follows a sign, where there is one. -/
def afterSign : List Char → List Char
  | '+' :: cs => cs
  | '-' :: cs => cs
  | cs => cs

/-- Whether a text is a number, which may be infinite or none. -/
def isNumber (cs : List Char) : Bool :=
  let cs := (afterSign cs).map Char.toLower
  ["inf", "infinity", "nan"].contains (String.ofList cs) ||
    match afterDecimal? cs with
    | some [] => true
    | some ('e' :: cs) => !(afterSign cs).isEmpty && (afterSign cs).all Char.isDigit
    | _ => false

/-- Checks a field, whose value is a number or a pattern; a second value does not count. -/
def checkField (cs : List Char) : Except Stop Unit :=
  if cs.isEmpty then .error (.fault .form)
  else
    match (pieces (· == '=') cs).drop 1 with
    | [] => .ok ()
    | value :: _ =>
      if isNumber value || Pattern.isPattern value then .ok () else .error (.fault .pattern)

/-! ### Reading -/

/-- What is being read, with the place where it began. -/
inductive Reading
  | nothing
  /-- A level or a target; it begins where the directive does. -/
  | name
  | span (first : Nat)
  | field (first : Nat)
  | afterField
  | afterSpan
  | level (first : Nat)
  deriving DecidableEq

/-- Whether a directive may begin with a character, an opening bracket aside. -/
def mayBegin (c : Char) : Bool := c == '-' || c == ':' || c == '_' || isAlphanumeric c

/-- Reads the character at a place. -/
def Reading.next (text : List Char) (place : Nat) (r : Reading) (c : Char) :
    Except Stop Reading :=
  match r, c with
  | .nothing, '[' => .ok (.span (place + 1))
  | .nothing, c => if mayBegin c then .ok .name else .error (.fault .form)
  | .name, '=' => (part text 0 place).map fun _ => .level (place + 1)
  | .name, '[' => (part text 0 place).map fun _ => .span (place + 1)
  | .name, _ => .ok .name
  | .span first, ']' => (part text first place).map fun _ => .afterSpan
  | .span first, '\x7b' => (part text first place).map fun _ => .field (place + 1)
  | .span first, _ => .ok (.span first)
  | .field first, '\x7d' => do
    checkField (← part text first place)
    .ok .afterField
  | .field first, _ => .ok (.field first)
  | .afterField, ']' => .ok .afterSpan
  | .afterField, _ => .error (.fault .form)
  | .afterSpan, '=' => .ok (.level (place + 1))
  | .afterSpan, _ => .error (.fault .form)
  | .level first, _ => .ok (.level first)

/-- Reads characters from a place on. -/
def Reading.run (text : List Char) : Nat → Reading → List Char → Except Stop Reading
  | _, r, [] => .ok r
  | place, r, c :: cs => do run text (place + c.utf8Size) (← r.next text place c) cs

/-- Ends a directive. -/
def Reading.finish (text : List Char) : Reading → Except Stop Unit
  | .name => .ok ()
  | .afterSpan => .ok ()
  | .level first => do checkLevel (← part text first (Utf8.byteLength text))
  | _ => .error (.fault .form)

/-- Reads a directive. -/
def check (text : List Char) : Except Stop Unit := do
  Reading.finish text (← Reading.run text 0 .nothing (trim text))

end Outbox.Telemetry.Directive
