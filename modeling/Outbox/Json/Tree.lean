import Outbox.Json.Numeral

/-!
# JSON texts as trees

What the reader finds in a text before anyone decides what is kept: members in the order written,
repeated ones included, numerals unread, and a mark (`none`) for a string that is not text, because
its bytes or its surrogate escapes form no characters.  Such strings, and numerals out of range, are
harmless in parts of a reply that nobody keeps.
-/

namespace Outbox.Json

/-- A JSON text, read but not interpreted. -/
inductive Tree
  | null
  | bool (b : Bool)
  | numeral (n : Numeral)
  | string (s : Option String)
  | array (elements : List Tree)
  | object (members : List (Option String × Tree))

namespace Tree

instance : Inhabited Tree := ⟨.null⟩

mutual

/-- The value of a tree, if all of it can be kept: strings are text, numbers finite, and arrays and
objects nest at most `depth` deep.  Of two members with one name the later counts. -/
def value? (depth : Nat) : Tree → Option Json
  | .null => some .null
  | .bool b => some (.bool b)
  | .numeral n => n.number?.map .number
  | .string s => s.map .string
  | .array xs =>
    match depth with
    | 0 => none
    | depth + 1 => (elements? depth xs).map .array
  | .object ms =>
    match depth with
    | 0 => none
    | depth + 1 => (members? depth ms).map fun ps => .object (Table.ofList ps)

/-- The values of elements. -/
def elements? (depth : Nat) : List Tree → Option (List Json)
  | [] => some []
  | x :: xs =>
    match value? depth x, elements? depth xs with
    | some v, some vs => some (v :: vs)
    | _, _ => none

/-- The names and values of members. -/
def members? (depth : Nat) : List (Option String × Tree) → Option (List (String × Json))
  | [] => some []
  | (k, x) :: ms =>
    match k, value? depth x, members? depth ms with
    | some k, some v, some ps => some ((k, v) :: ps)
    | _, _, _ => none

end

end Tree

end Outbox.Json
