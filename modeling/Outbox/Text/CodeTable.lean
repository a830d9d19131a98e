import Outbox.Text.Hex
import Outbox.Text.Pieces

/-!
# Tables of characters

What a standard says of thousands of characters is kept as text.  Each word of it holds a run of code
points, a sign, and what is said of the first of them: code points, or a number.  All numbers are
hexadecimal.

* `41=61` and `a8=20,308` — one code point with its values;
* `2000-200a=20` — the same values for each;
* `391-3a1+3b1` — each value is by one greater than the one before it;
* `ff71-ff75*30a2` — each value is by two greater;
* `100-12e/101` — every second code point, and each value is by two greater.
-/

namespace Outbox.Text

/-- A run of code points with their values. -/
structure CodeRun where
  first : Nat
  last : Nat
  /-- The distance between the code points of the run. -/
  step : Nat
  /-- The values of the first code point. -/
  values : List Nat
  /-- By how much the values grow from one code point of the run to the next. -/
  growth : Nat
  deriving DecidableEq

namespace CodeRun

/-- Whether a code point belongs to a run. -/
def covers (r : CodeRun) (n : Nat) : Bool :=
  r.first ≤ n && n ≤ r.last && (n - r.first) % r.step == 0

/-- The values of a code point of a run. -/
def valuesAt (r : CodeRun) (n : Nat) : List Nat :=
  r.values.map (· + r.growth * ((n - r.first) / r.step))

/-- The distance of the code points and the growth of the values that a sign stands for. -/
def progress? : Char → Option (Nat × Nat)
  | '=' => some (1, 0)
  | '+' => some (1, 1)
  | '*' => some (1, 2)
  | '/' => some (2, 2)
  | _ => none

/-- The run that a word says. -/
def ofWord? (word : List Char) : Option CodeRun :=
  let key := word.takeWhile fun c => (progress? c).isNone
  match word.drop key.length with
  | [] => none
  | sign :: rest => do
    let (step, growth) ← progress? sign
    let (first, last?) := cut '-' key
    let first ← Hex.ofDigits? first
    let last ← (last?.map Hex.ofDigits?).getD (some first)
    let values ← (pieces (· == ',') rest).mapM Hex.ofDigits?
    some { first, last, step, values, growth }

end CodeRun

/-- The runs of a table. -/
abbrev CodeTable := List CodeRun

namespace CodeTable

/-- The table that lines of words say. -/
def ofLines (lines : List String) : CodeTable :=
  lines.flatMap fun line => (pieces (· == ' ') line.toList).filterMap CodeRun.ofWord?

/-- The values of a character, if the table has some. -/
def values? (t : CodeTable) (c : Char) : Option (List Nat) :=
  (t.find? fun r => r.covers c.toNat).map fun r => r.valuesAt c.toNat

/-- The characters that stand for a character, if the table has some. -/
def image? (t : CodeTable) (c : Char) : Option (List Char) := (t.values? c).map (·.map Char.ofNat)

/-- The first code point whose values are these. -/
def firstWith? (t : CodeTable) (values : List Nat) : Option Nat :=
  (t.find? fun r => r.values == values).map CodeRun.first

end CodeTable

end Outbox.Text
