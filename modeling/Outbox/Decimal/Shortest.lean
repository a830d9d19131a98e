import Outbox.Decimal.Binary
import Outbox.Decimal.Integer

/-!
# The shortest decimal of a binary number

A finite number of the binary format is written with the fewest digits that read back as the same
number, among those with the digits nearest to it, and of two equally near ones with the even last
digit (`shortest`).  Where the decimal point goes is a separate choice, a `Layout`.
-/

namespace Outbox.Decimal

/-- The value `digits * 10 ^ exponent`. -/
structure Scientific where
  coefficient : Nat
  exponent : Int
  deriving DecidableEq

/-- Whether `coefficient * 10 ^ exponent`, times `2 ^ 1075`, lies between the midpoints around a
number, both given times `2 ^ 1075`; the midpoints belong to even significands. -/
def Scientific.within (s : Scientific) (low high : Nat) (closed : Bool) : Bool :=
  let value := s.coefficient * Nat.pow 10 s.exponent.toNat * Nat.pow 2 1075
  let low := low * Nat.pow 10 (-s.exponent).toNat
  let high := high * Nat.pow 10 (-s.exponent).toNat
  if closed then low ≤ value && value ≤ high else low < value && value < high

/-- The distance to the number, on the scale of `within`. -/
def Scientific.distance (s : Scientific) (twice : Nat) : Nat :=
  let value := s.coefficient * Nat.pow 10 s.exponent.toNat * Nat.pow 2 1075
  let target := twice * Nat.pow 10 (-s.exponent).toNat
  if value ≤ target then target - value else value - target

/-- The exponent of the leading decimal digit of `num / den`, both being positive. -/
def leadingExponent (num den : Nat) : Int :=
  let k : Int := ((digits num).length : Int) - (digits den).length
  if den * Nat.pow 10 k.toNat ≤ num * Nat.pow 10 (-k).toNat then k else k - 1

/-- The neighbours of a number on the grid of `10 ^ exponent`. -/
def gridNeighbours (num den : Nat) (exponent : Int) : Scientific × Scientific :=
  let q := num * Nat.pow 10 (-exponent).toNat / (den * Nat.pow 10 exponent.toNat)
  (⟨q, exponent⟩, ⟨q + 1, exponent⟩)

/-- The nearer of two neighbours, and of equally near ones the even one. -/
def nearer (twice : Nat) (below above : Scientific) : Scientific :=
  let down := below.distance twice
  let up := above.distance twice
  if down < up || (down == up && below.coefficient % 2 == 0) then below else above

/-- Tries ever finer grids, coarsest first. -/
def shortestFrom (twice low high : Nat) (closed : Bool) (lead : Int) : List Nat → Scientific
  | [] => ⟨0, 0⟩
  | n :: finer =>
    let (below, above) := gridNeighbours twice (Nat.pow 2 1075) (lead + 1 - (n : Int))
    match below.within low high closed, above.within low high closed with
    | true, true => nearer twice below above
    | true, false => below
    | false, true => above
    | false, false => shortestFrom twice low high closed lead finer

/-- The shortest decimal of the magnitude of a finite number that is not zero. -/
def shortest (x : Binary) : Scientific :=
  let twice := 2 * x.scaledMagnitude
  let high := twice + Nat.pow 2 x.scale
  let low :=
    if x.significand == hiddenBit && 0 < x.scale then twice - Nat.pow 2 (x.scale - 1)
    else twice - Nat.pow 2 x.scale
  shortestFrom twice low high (x.significand % 2 == 0) (leadingExponent twice (Nat.pow 2 1075))
    [1, 2, 3, 4, 5, 6, 7, 8, 9, 10, 11, 12, 13, 14, 15, 16, 17]

/-- Which numbers are written without an exponent: those whose decimal point stands at most `before`
digits left of the first digit and at most `after` digits right of it. -/
structure Layout where
  before : Nat
  after : Nat
  deriving DecidableEq

/-- Whether the decimal point at `point`, counted from the first digit, is written in place. -/
def Layout.positional (l : Layout) (point : Int) : Bool :=
  -(l.before : Int) ≤ point && point ≤ (l.after : Int)

/-- Digits with a decimal point in place; a whole number keeps the point and one zero. -/
def placePoint (ds : List Char) (point : Int) : List Char :=
  if point ≤ 0 then ['0', '.'] ++ List.replicate (-point).toNat '0' ++ ds
  else
    let k := point.toNat
    if ds.length ≤ k then ds ++ List.replicate (k - ds.length) '0' ++ ['.', '0']
    else ds.take k ++ '.' :: ds.drop k

/-- Digits with an exponent, which has a sign; a single digit stands without a point. -/
def placeExponent (ds : List Char) (point : Int) : List Char :=
  let e := point - 1
  let mantissa :=
    match ds with
    | d :: rest@(_ :: _) => d :: '.' :: rest
    | ds => ds
  mantissa ++ 'e' :: (if e < 0 then '-' else '+') :: digits e.natAbs

/-- Digits without trailing zeros. -/
def dropTrailingZeros (ds : List Char) : List Char :=
  (ds.reverse.dropWhile (· == '0')).reverse

/-- The text of a finite number. -/
def Binary.text (x : Binary) (layout : Layout) : List Char :=
  let sign := if x.negative then ['-'] else []
  if x.significand == 0 then sign ++ ['0', '.', '0']
  else
    let s := shortest x
    let all := digits s.coefficient
    let point := (all.length : Int) + s.exponent
    let ds := dropTrailingZeros all
    sign ++ if layout.positional point then placePoint ds point else placeExponent ds point

end Outbox.Decimal
