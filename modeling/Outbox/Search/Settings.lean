import Outbox.Config.Retry

/-!
# Where the search index is

What the client of the index is told: the address, the name of the live index, the key, and the name
of a second index that takes every write while the documents are being indexed anew.
-/

namespace Outbox.Search

/-- How to reach the search index. -/
structure Settings where
  url : String
  index : String
  apiKey : Option String
  reindexTarget : Option String
  retry : RetryPolicy
  deriving DecidableEq

namespace Settings

/-- The indices that writes go to: the live one, and the target if it is another. -/
def writeTargets (s : Settings) : List String :=
  match s.reindexTarget with
  | none => [s.index]
  | some target => if target = s.index then [s.index] else [s.index, target]

/-- The address of a path below the index's own, whose trailing slashes do not count. -/
def address (s : Settings) (path : String) : String :=
  let base := (s.url.toList.reverse.dropWhile (· == '/')).reverse
  String.ofList (base ++ '/' :: path.toList)

/-- The path that searches go to. -/
def searchPath (s : Settings) : String := s.index ++ "/_search"

/-- The path that writes go to. -/
def bulkPath : String := "_bulk"

/-- Whether a character may stand in a header value. -/
def isHeaderChar (c : Char) : Bool := c == '\t' || (0x20 ≤ c.toNat && c.toNat != 0x7f)

end Settings

end Outbox.Search
