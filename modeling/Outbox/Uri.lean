import Outbox.Text.Utf8

/-!
# Addresses as they are

A URI is a path of the machine itself, or a host with its service number, before which there may be a
scheme and, if there is one, after which there may be a path and a query.  Nothing is decoded and
nothing is encoded on the way, so a character that cannot stand where it does is a fault.
-/

namespace Outbox.Uri

open Outbox.Text

/-- Why a text is no URI. -/
inductive Fault
  | empty
  | tooLong
  | schemeTooLong
  | character
  /-- The host or what belongs to it is put together in a wrong way. -/
  | authority
  /-- A part is missing, or there is one too many. -/
  | form
  deriving DecidableEq

/-- The wording of a fault. -/
def Fault.message : Fault → String
  | .empty => "empty string"
  | .tooLong => "uri too long"
  | .schemeTooLong => "scheme too long"
  | .character => "invalid uri character"
  | .authority => "invalid authority"
  | .form => "invalid format"

/-- The bytes that a URI may have. -/
def longest : Nat := 65534

/-- The characters that a scheme may have. -/
def longestScheme : Nat := 64

/-! ### The host -/

/-- A character of the user, the host or the service number. -/
def isAuthorityChar (c : Char) : Bool :=
  c.isAlphanum || "!$%&\x27()*+,-.:;=@[]_~".toList.contains c

/-- Whether a character is the first after the host. -/
def endsAuthority (c : Char) : Bool := c == '/' || c == '?' || c == '#'

/-- What has been seen of the user, the host and the service number. -/
structure Seen where
  /-- The colons since the user or the closing bracket. -/
  colons : Nat
  opened : Bool
  closed : Bool
  /-- Whether anything is encoded since the user or the closing bracket. -/
  percent : Bool
  /-- Whether the user has just ended. -/
  user : Bool

/-- The most colons: seven in an address of eight pieces, and one before the service number. -/
def mostColons : Nat := 8

/-- Nothing has been seen. -/
def Seen.nothing : Seen := ⟨0, false, false, false, false⟩

/-- Takes a character into account that may stand here, if what it does to the rest is in order. -/
def Seen.take (s : Seen) : Char → Option Seen
  | ':' => if s.colons < mostColons then some { s with colons := s.colons + 1 } else none
  | '[' => if s.percent || s.opened then none else some { s with opened := true }
  | ']' =>
    if s.opened && !s.closed then some { s with colons := 0, closed := true, percent := false }
    else none
  | '@' => some { s with colons := 0, percent := false, user := true }
  | '%' => some { s with percent := true }
  | _ => some s

/-- Takes a character into account. -/
def Seen.next (s : Seen) (c : Char) : Except Fault Seen :=
  if isAuthorityChar c then
    match { s with user := false }.take c with
    | some s => .ok s
    | none => .error .authority
  else .error .character

/-- Whether the host may end here. -/
def Seen.mayEnd (s : Seen) : Bool :=
  s.opened == s.closed && s.colons ≤ 1 && !s.user && !s.percent

/-- Reads the user, the host and the service number, and gives what follows. -/
def afterAuthority (cs : List Char) : Except Fault (List Char) :=
  match (cs.takeWhile fun c => !endsAuthority c).foldlM Seen.next .nothing with
  | .error f => .error f
  | .ok s =>
    if s.mayEnd then .ok (cs.dropWhile fun c => !endsAuthority c) else .error .authority

/-! ### The other parts -/

/-- A character of a scheme. -/
def isSchemeChar (c : Char) : Bool := c.isAlphanum || "+-.~".toList.contains c

/-- Cuts the scheme off, if there is one. -/
def afterScheme (cs : List Char) : Except Fault (Option (List Char)) :=
  let scheme := cs.takeWhile isSchemeChar
  match cs.drop scheme.length with
  | ':' :: '/' :: '/' :: rest =>
    if scheme = [] ∧ rest = [] then .ok none
    else if longestScheme < scheme.length then .error .schemeTooLong
    else .ok (some rest)
  | _ => .ok none

/-- A character that is seen, or is not in ASCII. -/
def isGraphic (c : Char) : Bool := '!' ≤ c && c != '\x7f'

/-- A character of a path. -/
def isPathChar (c : Char) : Bool := isGraphic c && !"#<>?\x60".toList.contains c

/-- A character of a query. -/
def isQueryChar (c : Char) : Bool := isGraphic c && !"\x22#<>".toList.contains c

/-- Reads a path with its query; what follows a `#` is not looked at. -/
def checkPath (cs : List Char) : Except Fault Unit :=
  let marked := cs.takeWhile (· != '#')
  let path := marked.takeWhile (· != '?')
  let query := (marked.drop path.length).drop 1
  if path.all isPathChar && query.all isQueryChar then .ok () else .error .character

/-- Reads a URI that begins with a scheme or a host. -/
def checkLocated (cs : List Char) : Except Fault Unit := do
  match ← afterScheme cs with
  | none =>
    let rest ← afterAuthority cs
    if rest = [] then pure () else throw .form
  | some [] => throw .empty
  | some located =>
    let rest ← afterAuthority located
    if rest = located then throw .form else checkPath rest

/-- Reads a URI. -/
def check (cs : List Char) : Except Fault Unit :=
  if longest < Utf8.byteLength cs then .error .tooLong
  else
    match cs with
    | [] => .error .empty
    | '/' :: _ => checkPath cs
    | ['*'] => .ok ()
    | ['?'] | ['#'] => .error .character
    | _ => checkLocated cs

/-- Whether a text is a URI. -/
def isUri (s : String) : Bool := (check s.toList).isOk

end Outbox.Uri
