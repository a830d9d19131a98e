import Outbox.Text.Alphanumeric
import Outbox.Text.Blank
import Outbox.Text.Hex

/-!
# Patterns

The value of a field is compared with a number or with a pattern, which is a regular expression.  As
long as nothing is reported no value is compared, so what shows of a pattern is only whether it is
one.  It is read from left to right with the modes that hold at a place; no tables of characters are
at hand, so where the modes ask for all of Unicode there are no classes by name, no words and no other
case.
-/

namespace Outbox.Telemetry.Pattern

open Outbox.Text

/-- How the text of a pattern is taken at a place. -/
structure Modes where
  ignoreCase : Bool
  unicode : Bool
  /-- Whether blanks and comments do not count. -/
  spaced : Bool
  deriving DecidableEq

/-- The modes that a pattern begins with. -/
def Modes.standard : Modes := ⟨false, true, false⟩

/-- Whether a character may stand for itself. -/
def Modes.allowsChar (m : Modes) : Bool := !(m.ignoreCase && m.unicode)

/-- Whether a character may stand for itself in a class. -/
def Modes.allowsInClass (m : Modes) (code : Nat) : Bool :=
  if m.unicode then !m.ignoreCase else code < 128

/-! ### Escapes -/

/-- What an escape stands for. -/
inductive Atom
  | char (code : Nat)
  | set
  /-- A place between characters. -/
  | place
  deriving DecidableEq

/-- A character by its number, of which so many digits are written. -/
def numbered? (m : Modes) (width : Nat) (cs : List Char) : Option (Atom × List Char) :=
  if cs.length < width then none
  else
    match Hex.ofDigits? (cs.take width) with
    | some n => if n.isValidChar ∧ (m.unicode ∨ n < 128) then some (.char n, cs.drop width) else none
    | none => none

/-- What follows a backslash. -/
def escape? (m : Modes) : List Char → Option (Atom × List Char)
  | [] => none
  | 'x' :: cs => numbered? m 2 cs
  | 'u' :: cs => numbered? m 4 cs
  | 'U' :: cs => numbered? m 8 cs
  | c :: cs =>
    if "afnrtv".toList.contains c then some (.char c.toNat, cs)
    else if c == 'A' || c == 'z' then some (.place, cs)
    else if "bB<>".toList.contains c then if m.unicode then none else some (.place, cs)
    else if "dsw".toList.contains c then if m.unicode then none else some (.set, cs)
    else if c.toNat < 128 && !c.isAlphanum then some (.char c.toNat, cs)
    else none

/-! ### Classes -/

/-- The classes that have names in brackets of their own. -/
def classNames : List String := [
  "alnum", "alpha", "ascii", "blank", "cntrl", "digit", "graph", "lower", "print", "punct", "space",
  "upper", "word", "xdigit"]

/-- What follows the name of a class, after the opening bracket. -/
def afterName? (m : Modes) : List Char → Option (List Char)
  | ':' :: cs =>
    let negated := cs.head? == some '^'
    let cs := if negated then cs.drop 1 else cs
    let name := cs.takeWhile (· != ':')
    match cs.drop name.length with
    | ':' :: ']' :: rest =>
      if classNames.contains (String.ofList name) && (m.unicode || !negated) then some rest else none
    | _ => none
  | _ => none

/-- What follows the opening of a class, which may say that the others are meant, and the hyphens or
the closing bracket that stand for themselves there. -/
def afterOpening? (m : Modes) (cs : List Char) : Option (List Char) :=
  let negated := cs.head? == some '^'
  let cs := if negated then cs.drop 1 else cs
  if negated && !m.unicode then none
  else
    match cs with
    | ']' :: rest => some rest
    | _ => some (cs.dropWhile (· == '-'))

/-- One member of a class. -/
def member? (m : Modes) : List Char → Option (Atom × List Char)
  | [] => none
  | '\\' :: cs => escape? m cs
  | c :: cs => some (.char c.toNat, cs)

/-- What follows a member or a range of a class. -/
def afterRange? (m : Modes) (cs : List Char) : Option (List Char) := do
  let (first, rest) ← member? m cs
  let isRange :=
    match rest with
    | '-' :: c :: _ => c != ']' && c != '-'
    | '-' :: [] => true
    | _ => false
  if isRange then
    match first, ← member? m (rest.drop 1) with
    | .char a, (.char b, rest) => if a ≤ b && m.allowsInClass b then some rest else none
    | _, _ => none
  else
    match first with
    | .char a => if m.allowsInClass a then some rest else none
    | .set => some rest
    | .place => none

/-- What follows a class with so many classes around it; it has fewer members than `steps`. -/
def afterClass? (m : Modes) : Nat → Nat → List Char → Option (List Char)
  | 0, _, _ => none
  | _, _, [] => none
  | _ + 1, 0, ']' :: cs => some cs
  | steps + 1, around + 1, ']' :: cs => afterClass? m steps around cs
  | steps + 1, around, '[' :: cs =>
    match afterName? m cs with
    | some rest => afterClass? m steps around rest
    | none => (afterOpening? m cs).bind (afterClass? m steps (around + 1))
  | steps + 1, around, '&' :: '&' :: cs => afterClass? m steps around cs
  | steps + 1, around, '-' :: '-' :: cs => afterClass? m steps around cs
  | steps + 1, around, '~' :: '~' :: cs => afterClass? m steps around cs
  | steps + 1, around, cs => (afterRange? m cs).bind (afterClass? m steps around)

/-! ### Groups -/

/-- Sets a mode by its letter; some of the modes change nothing of what is a pattern. -/
def Modes.set (m : Modes) (letter : Char) (on : Bool) : Modes :=
  match letter with
  | 'i' => { m with ignoreCase := on }
  | 'u' => { m with unicode := on }
  | 'x' => { m with spaced := on }
  | _ => m

/-- Reads modes up to the colon or the bracket after them, and gives what follows from there on.  Each
letter comes once, and so does the hyphen, after which modes are switched off. -/
def modes? (m : Modes) (seen : List Char) : List Char → Option (Modes × List Char)
  | [] => none
  | c :: cs =>
    if c == ':' || c == ')' then
      if seen.head? = some '-' then none else some (m, c :: cs)
    else if seen.contains c || !"-imsUuRx".toList.contains c then none
    else modes? (m.set c (!seen.contains '-')) (c :: seen) cs

/-- Whether a name may be given to a group. -/
def isName : List Char → Bool
  | [] => false
  | c :: cs =>
    (c == '_' || (isAlphanumeric c && !c.isDigit)) &&
      cs.all fun d => isAlphanumeric d || "_.[]".toList.contains d

/-- What an opening parenthesis begins. -/
inductive Opening
  | group (name : Option (List Char)) (inner : Modes)
  /-- Modes for the rest of the group around it. -/
  | modes (inner : Modes)

/-- The name of a group and what follows it. -/
def named? (m : Modes) (cs : List Char) : Option (Opening × List Char) :=
  let name := cs.takeWhile (· != '>')
  match cs.drop name.length with
  | '>' :: rest => if isName name then some (.group (some name) m, rest) else none
  | _ => none

/-- What follows an opening parenthesis; looking ahead and behind is no part of patterns. -/
def opening? (m : Modes) : List Char → Option (Opening × List Char)
  | '?' :: 'P' :: '<' :: cs => named? m cs
  | '?' :: '<' :: '!' :: _ => none
  | '?' :: '<' :: '=' :: _ => none
  | '?' :: '<' :: cs => named? m cs
  | '?' :: ')' :: _ => none
  | '?' :: cs =>
    match modes? m [] cs with
    | some (inner, ':' :: rest) => some (.group none inner, rest)
    | some (inner, _ :: rest) => some (.modes inner, rest)
    | _ => none
  | cs => some (.group none m, cs)

/-! ### Patterns -/

/-- What has been read of a pattern. -/
structure Reading where
  modes : Modes
  /-- The modes around each group that is open, the innermost group first. -/
  open_ : List Modes
  names : List (List Char)
  /-- Whether something stands here that can be repeated. -/
  operand : Bool

/-- Takes what an opening parenthesis begins into account. -/
def Reading.enter (r : Reading) : Opening → Option Reading
  | .modes inner => some { r with modes := inner, operand := false }
  | .group name inner =>
    if name.any r.names.contains then none
    else
      some {
        modes := inner
        open_ := r.modes :: r.open_
        names := name.toList ++ r.names
        operand := false }

/-- Reads one item, and gives what follows it. -/
def Reading.next (r : Reading) : List Char → Option (Reading × List Char)
  | [] => none
  | c :: cs =>
    let after (rest : List Char) : Reading × List Char := ({ r with operand := true }, rest)
    if r.modes.spaced && isBlank c then some (r, cs)
    else if r.modes.spaced && c == '#' then some (r, cs.dropWhile (· != '\n'))
    else
      match c with
      | '(' => do
        let (opening, rest) ← opening? r.modes cs
        some (← r.enter opening, rest)
      | ')' =>
        match r.open_ with
        | [] => none
        | m :: ms => some ({ r with modes := m, open_ := ms, operand := true }, cs)
      | '|' => some ({ r with operand := false }, cs)
      | '[' =>
        ((afterOpening? r.modes cs).bind (afterClass? r.modes (cs.length + 1) 0)).map after
      | '\\' =>
        match escape? r.modes cs with
        | some (.char _, rest) => if r.modes.allowsChar then some (after rest) else none
        | some (_, rest) => some (after rest)
        | none => none
      | '.' => if r.modes.unicode then some (after cs) else none
      | '^' | '$' => some (after cs)
      | '*' | '+' | '?' =>
        if r.operand then some (r, if cs.head? = some '?' then cs.drop 1 else cs) else none
      | '\x7b' => none
      | _ => if r.modes.allowsChar then some (after cs) else none

/-- Reads items until nothing is left; there are fewer of them than `steps`. -/
def Reading.isCompleted : Nat → Reading → List Char → Bool
  | _, r, [] => r.open_.isEmpty
  | 0, _, _ => false
  | steps + 1, r, cs =>
    match r.next cs with
    | some (r, rest) => isCompleted steps r rest
    | none => false

/-- Whether a text is a pattern. -/
def isPattern (cs : List Char) : Bool :=
  Reading.isCompleted cs.length ⟨.standard, [], [], false⟩ cs

end Outbox.Telemetry.Pattern
