import Outbox.Error
import Outbox.Text.Quoted

/-!
# Table names

The name of the primary table becomes part of statements, so only plain identifiers are let through:
one part, or two with a dot between them, each an ASCII letter or an underscore followed by ASCII
letters, digits and underscores.
-/

namespace Outbox

namespace TableName

/-- A character that may open a part. -/
def isOpening (c : Char) : Bool := c.isAlpha || c == '_'

/-- A character that may continue a part. -/
def isInner (c : Char) : Bool := c.isAlphanum || c == '_'

/-- Whether a text is one part of a name. -/
def isPart : List Char → Bool
  | [] => false
  | c :: cs => isOpening c && cs.all isInner

/-- The parts between dots; a text without dots is one part. -/
def parts : List Char → List (List Char)
  | [] => [[]]
  | c :: cs =>
    match parts cs with
    | [] => [[c]]
    | p :: ps => if c = '.' then [] :: p :: ps else (c :: p) :: ps

/-- Whether a text is a plain identifier, with at most one dot. -/
def isIdentifier (s : String) : Bool :=
  let ps := parts s.toList
  ps.length ≤ 2 && ps.all isPart

end TableName

/-- A name that may become part of a statement. -/
structure TableName where
  text : String
  plain : TableName.isIdentifier text = true
  deriving DecidableEq

namespace TableName

/-- Lets a name through, or refuses it. -/
def ofText (s : String) : Except Error TableName :=
  if h : isIdentifier s = true then .ok ⟨s, h⟩
  else .error (.config ("invalid table name: " ++ Text.quoted s))

/-- The table that is used when none is named. -/
def standard : TableName := ⟨"annotation", by decide +kernel⟩

end TableName

end Outbox
