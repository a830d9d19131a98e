import Outbox.Text.CombiningClass
import Outbox.Text.Decomposition

/-!
# Normal form

Many characters can be written in more than one way: as one character, or as a letter and the marks
on it, which may come in more than one order.  Of all these ways one is the normal form: characters
are taken apart, the marks on a letter are put into the order of their combining classes, and what
can be joined is joined again (Normalization Form C).
-/

namespace Outbox.Text

/-! ### The order of marks -/

/-- Puts a character before a text whose marks are in order: a mark goes behind those of the same
letter that have a lower class. -/
def place (c : Char) : List Char → List Char
  | [] => [c]
  | d :: ds =>
    if combiningClass d ≠ 0 ∧ combiningClass d < combiningClass c then d :: place c ds
    else c :: d :: ds

/-- A text with its marks in order; those of one class keep theirs. -/
def ordered (cs : List Char) : List Char := cs.foldr place []

/-! ### Joining -/

/-- Whether a character reaches the letter past the marks that were kept, the last of them first: the
one before it must have a lower class. -/
def reaches (kept : List Char) (c : Char) : Bool :=
  match kept with
  | [] => true
  | k :: _ => combiningClass k < combiningClass c

/-- Joins a letter with what follows it; `kept` are the marks after it that did not join. -/
def composedFrom (letter : Char) (kept : List Char) : List Char → List Char
  | [] => letter :: kept.reverse
  | c :: cs =>
    match if reaches kept c then composite? letter c else none with
    | some joined => composedFrom joined kept cs
    | none =>
      if combiningClass c = 0 then letter :: kept.reverse ++ composedFrom c [] cs
      else composedFrom letter (c :: kept) cs

/-- Joins what can be joined. -/
def composed : List Char → List Char
  | [] => []
  | c :: cs => composedFrom c [] cs

/-! ### The normal form -/

/-- A text in normal form. -/
def normal (cs : List Char) : List Char := composed (ordered (cs.flatMap atoms))

end Outbox.Text
