import Outbox.Json.Printer
import Outbox.Text.Quoted

/-!
# Refusals of JSON values

The wording for a value that is not what a record asks for: what was found, and what was expected in
its place.
-/

namespace Outbox.Json

/-- A name between backquotes. -/
def backquoted (s : String) : String := "\x60" ++ s ++ "\x60"

/-- What a value is, for a message. -/
def found : Json → String
  | .null => "null"
  | .bool b => "boolean " ++ backquoted (if b then "true" else "false")
  | .number (.integer n) => "integer " ++ backquoted (toString n)
  | .number (.binary x) =>
    "floating point " ++ backquoted (String.ofList (renderNumber (.binary x)))
  | .string s => "string " ++ Text.quoted s
  | .array _ => "sequence"
  | .object _ => "map"

/-- A value of the wrong kind. -/
def wrongKind (j : Json) (expected : String) : String :=
  "invalid type: " ++ j.found ++ ", expected " ++ expected

/-- A list that ends before a record has all its fields. -/
def tooFew (length : Nat) (expected : String) : String :=
  "invalid length " ++ toString length ++ ", expected " ++ expected

/-- A list with more elements than a record has fields. -/
def tooMany (length : Nat) : String :=
  "invalid length " ++ toString length ++ ", expected fewer elements in array"

/-- A record without one of its fields. -/
def missingField (name : String) : String := "missing field " ++ backquoted name

end Outbox.Json
