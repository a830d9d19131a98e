import Outbox.Text.Printable

/-!
# Quoted text

The form in which messages show a name they cannot vouch for: between double quotes, with a
backslash before a quote or a backslash, short escapes for tab, return, line feed and NUL, and the
number of every other character that does not show itself.
-/

namespace Outbox.Text

/-- How one character is written between the quotes. -/
def quoteChar (c : Char) : List Char :=
  if c == '\x00' then ['\\', '0']
  else if c == '\t' then ['\\', 't']
  else if c == '\r' then ['\\', 'r']
  else if c == '\n' then ['\\', 'n']
  else if c == '\\' then ['\\', '\\']
  else if c == '"' then ['\\', '"']
  else if isCombining c || !isPrintable c then
    ['\\', 'u', '{'] ++ Nat.toDigits 16 c.toNat ++ ['}']
  else [c]

/-- A text between double quotes, with every character that could mislead escaped. -/
def quoted (s : String) : String :=
  String.ofList ('"' :: (s.toList.flatMap quoteChar ++ ['"']))

end Outbox.Text
