import Outbox.Text.Pieces

/-!
# Punycode

Text beyond ASCII written in ASCII: first the characters that are in it anyway, then, after a
hyphen, where the others belong.  They come in the order of their code points, each as a numeral to
the base thirty-six that says how many places further on it stands.  A digit below a threshold ends
its numeral, and the thresholds follow the numerals that were written before.
-/

namespace Outbox.Text.Punycode

/-! ### Numerals -/

/-- The digit of a value below thirty-six: the letters come first. -/
def digit (n : Nat) : Char := if n < 26 then Char.ofNat (0x61 + n) else Char.ofNat (0x30 + (n - 26))

/-- The value of a digit. -/
def value? (c : Char) : Option Nat :=
  if c.isLower then some (c.toNat - 0x61)
  else if c.isDigit then some (c.toNat - 0x30 + 26)
  else none

/-- The digits below it end a numeral; places are counted in steps of thirty-six. -/
def threshold (bias place : Nat) : Nat := min 26 (max 1 (place - bias))

/-- The first place of a numeral. -/
def firstPlace : Nat := 36

theorem one_le_threshold (bias place : Nat) : 1 ≤ threshold bias place := by
  unfold threshold
  omega

/-- The digits of a number from a place on, the lowest first. -/
def numeral (bias place n : Nat) : List Char :=
  let t := threshold bias place
  if n < t then [digit n]
  else digit (t + (n - t) % (36 - t)) :: numeral bias (place + 36) ((n - t) / (36 - t))
termination_by n
decreasing_by
  have h := one_le_threshold bias place
  exact Nat.lt_of_le_of_lt (Nat.div_le_self _ _) (by omega)

/-- How often a number is divided before it is small enough, and what is left. -/
def reduced (n : Nat) : Nat × Nat :=
  if 455 < n then
    let (times, rest) := reduced (n / 35)
    (times + 1, rest)
  else (0, n)
termination_by n

/-- The bias after a number, the first one or a later one, with so many characters written. -/
def adapted (n characters : Nat) (isFirst : Bool) : Nat :=
  let n := if isFirst then n / 700 else n / 2
  let (times, rest) := reduced (n + n / characters)
  36 * times + 36 * rest / (rest + 38)

/-- The bias before the first number. -/
def firstBias : Nat := 72

/-- The first code point beyond ASCII. -/
def firstCode : Nat := 128

/-- Whether a character is in ASCII. -/
def isAscii (c : Char) : Bool := c.toNat < firstCode

/-! ### Writing -/

/-- What has been written. -/
structure Writing where
  out : List Char
  /-- The places passed since the last character that was written. -/
  distance : Nat
  bias : Nat
  characters : Nat

/-- Passes a character, and writes it if it has the code point whose turn it is. -/
def Writing.pass (basic code : Nat) (w : Writing) (c : Char) : Writing :=
  if c.toNat < code then { w with distance := w.distance + 1 }
  else if c.toNat = code then
    { out := w.out ++ numeral w.bias firstPlace w.distance
      distance := 0
      bias := adapted w.distance (w.characters + 1) (w.characters == basic)
      characters := w.characters + 1 }
  else w

/-- Passes the whole text once for each code point. -/
def Writing.codes (basic : Nat) (cs : List Char) : Nat → List Nat → Writing → Writing
  | _, [], w => w
  | from_, code :: rest, w =>
    let skipped := (code - from_) * (w.characters + 1)
    let w := cs.foldl (Writing.pass basic code) { w with distance := w.distance + skipped }
    codes basic cs (code + 1) rest { w with distance := w.distance + 1 }

/-- Writes a text. -/
def write (cs : List Char) : List Char :=
  let basic := cs.filter isAscii
  let codes := ((cs.filter fun c => !isAscii c).map Char.toNat).mergeSort.eraseDups
  let start : Writing := ⟨[], 0, firstBias, basic.length⟩
  (if basic.isEmpty then [] else basic ++ ['-']) ++
    (Writing.codes basic.length cs firstCode codes start).out

/-! ### Reading -/

/-- What has been read. -/
structure Reading where
  text : List Char
  code : Nat
  /-- Where the next character would stand. -/
  position : Nat
  bias : Nat
  place : Nat
  /-- What a digit counts at this place. -/
  weight : Nat
  sum : Nat

/-- Puts a character where a number says. -/
def Reading.insert (r : Reading) (n : Nat) : Option Reading :=
  let characters := r.text.length + 1
  let at_ := (r.position + n) % characters
  let code := r.code + (r.position + n) / characters
  if code.isValidChar then
    some {
      text := r.text.insertIdx at_ (Char.ofNat code)
      code
      position := at_ + 1
      bias := adapted n characters (r.position == 0)
      place := firstPlace
      weight := 1
      sum := 0 }
  else none

/-- Numbers and weights are counted up to here; what needs more cannot be a code point. -/
def numberLimit : Nat := 0x100000000

/-- Reads a digit. -/
def Reading.next (r : Reading) (c : Char) : Option Reading :=
  match value? c with
  | none => none
  | some d =>
    let t := threshold r.bias r.place
    let sum := r.sum + d * r.weight
    let weight := r.weight * (36 - t)
    if numberLimit ≤ r.position + sum then none
    else if d < t then r.insert sum
    else if numberLimit ≤ weight then none
    else some { r with place := r.place + 36, weight, sum }

/-- What is in ASCII, before the last hyphen, and the numerals after it.  Nothing is left out where the
only hyphen comes first, and a hyphen is no digit. -/
def halves (cs : List Char) : List Char × List Char :=
  match cut '-' cs.reverse with
  | (after, some (c :: before)) => ((c :: before).reverse, after.reverse)
  | _ => ([], cs)

/-- Reads a text; nothing where it was not written by these rules. -/
def read? (cs : List Char) : Option (List Char) :=
  let (basic, numerals) := halves cs
  if basic.all isAscii then
    match numerals.foldlM Reading.next ⟨basic, firstCode, 0, firstBias, firstPlace, 1, 0⟩ with
    | some r => if r.place = firstPlace then some r.text else none
    | none => none
  else none

end Outbox.Text.Punycode
