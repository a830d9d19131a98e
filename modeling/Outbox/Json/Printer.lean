import Outbox.Json.Basic
import Outbox.Decimal.Shortest
import Outbox.Text.Hex

/-!
# Compact JSON text

A value is written without blanks, members in the order of the object, every character of a string
as it is except quotes, backslashes and controls.  So a written value never holds a line feed, which
is what lets lines frame the documents of a bulk request.
-/

namespace Outbox.Json

open Outbox.Decimal

/-- How one character of a string is written. -/
def escapeChar (c : Char) : List Char :=
  if c == '"' then ['\\', '"']
  else if c == '\\' then ['\\', '\\']
  else if c == '\x08' then ['\\', 'b']
  else if c == '\x0c' then ['\\', 'f']
  else if c == '\n' then ['\\', 'n']
  else if c == '\r' then ['\\', 'r']
  else if c == '\t' then ['\\', 't']
  else if c.toNat < 0x20 then '\\' :: 'u' :: Text.Hex.digits 4 c.toNat
  else [c]

/-- A string between quotes. -/
def renderString (s : String) : List Char := '"' :: s.toList.flatMap escapeChar ++ ['"']

/-- The decimal point is written in place from `0.00001` up to `9999999999999998.0`; numbers nearer
to zero or further from it have an exponent. -/
def numberLayout : Layout := ⟨4, 16⟩

/-- A number: an integer by its digits, any other with a point or an exponent. -/
def renderNumber : Number → List Char
  | .integer n => if n < 0 then '-' :: digits n.natAbs else digits n.natAbs
  | .binary x => x.text numberLayout

mutual

/-- The text of a value. -/
def render : Json → List Char
  | .null => ['n', 'u', 'l', 'l']
  | .bool true => ['t', 'r', 'u', 'e']
  | .bool false => ['f', 'a', 'l', 's', 'e']
  | .number n => renderNumber n
  | .string s => renderString s
  | .array [] => ['[', ']']
  | .array (x :: xs) => '[' :: render x ++ renderElements xs
  | .object [] => ['{', '}']
  | .object ((k, v) :: ms) => '{' :: renderString k ++ ':' :: render v ++ renderMembers ms

/-- The elements after the first, and the closing bracket. -/
def renderElements : List Json → List Char
  | [] => [']']
  | x :: xs => ',' :: render x ++ renderElements xs

/-- The members after the first, and the closing brace. -/
def renderMembers : List (String × Json) → List Char
  | [] => ['}']
  | (k, v) :: ms => ',' :: renderString k ++ ':' :: render v ++ renderMembers ms

end

/-- The compact text of a value. -/
def text (j : Json) : String := String.ofList j.render

end Outbox.Json
