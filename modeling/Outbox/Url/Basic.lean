import Outbox.Url.Host

/-!
# URLs

A scheme, perhaps a host with a user and a service number, a path, a query and a fragment.  All parts
are kept in their encoded form.
-/

namespace Outbox

/-- A URL. -/
structure Url where
  scheme : List Char
  username : List Char
  password : List Char
  /-- No host is something else than one with an empty name. -/
  host : Option Host
  /-- The service number, where it is not the usual one of the scheme. -/
  portNumber : Option Nat
  path : List Char
  query : Option (List Char)
  fragment : Option (List Char)
  deriving DecidableEq

namespace Url

/-- Why a text is no URL. -/
inductive Fault
  /-- There is no scheme. -/
  | relative
  | host (fault : Host.Fault)
  | portNumber
  deriving DecidableEq

/-- The wording of a fault. -/
def Fault.message : Fault → String
  | .relative => "relative URL without a base"
  | .host .empty => "empty host"
  | .host .international => "invalid international domain name"
  | .host .ipv4 => "invalid IPv4 address"
  | .host .ipv6 => "invalid IPv6 address"
  | .host .character => "invalid domain character"
  | .portNumber => "invalid port number"

/-- The schemes whose paths begin at a root, and their usual service numbers. -/
def specialPorts : List (String × Nat) :=
  [("http", 80), ("https", 443), ("ws", 80), ("wss", 443), ("ftp", 21)]

/-- The usual service number of a special scheme. -/
def usualPort? (scheme : List Char) : Option Nat :=
  (specialPorts.find? fun s => s.1.toList == scheme).map Prod.snd

/-- Whether the scheme is one of files. -/
def isFile (scheme : List Char) : Bool := scheme == ['f', 'i', 'l', 'e']

/-- Whether a scheme is special. -/
def isSpecial (scheme : List Char) : Bool := isFile scheme || (usualPort? scheme).isSome

/-- The user in front of a host. -/
def userText (u : Url) : List Char :=
  if u.username.isEmpty && u.password.isEmpty then []
  else u.username ++ (if u.password.isEmpty then [] else ':' :: u.password) ++ ['@']

/-- A part that may be missing, after its mark. -/
def markedText (mark : Char) : Option (List Char) → List Char
  | none => []
  | some cs => mark :: cs

/-- The user, the host and the service number. -/
def authorityText (u : Url) : List Char :=
  match u.host with
  | none => []
  | some h =>
    '/' :: '/' :: (u.userText ++ h.text ++ markedText ':' (u.portNumber.map Decimal.digits))

/-- Path and query, which is what the server of the host is asked for. -/
def target (u : Url) : List Char := u.path ++ markedText '?' u.query

/-- The whole text. -/
def text (u : Url) : String :=
  String.ofList (u.scheme ++ ':' :: u.authorityText ++ u.target ++ markedText '#' u.fragment)

end Url

end Outbox
