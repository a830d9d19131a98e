import Outbox.Network.DomainName
import Outbox.Network.FilePath
import Outbox.Url.Host

/-!
# The network

Services are reached under an address, under a name that is looked up first, or over a socket in the
file system.  Where there is no network, each way ends at an obstacle of its own, and which one it is
depends on the target alone.
-/

namespace Outbox

open Outbox.Text

/-- Whether the services can be reached. -/
inductive Network
  | up
  | offline
  deriving DecidableEq

namespace Network

/-- What a connection is made to. -/
inductive Target
  | socket (path : List Char)
  | host (name : List Char)
  deriving DecidableEq

/-- What keeps a connection from being made. -/
inductive Obstacle
  | path (fault : FilePath.Fault)
  | pathTooLong
  | nulInPath
  | nulInName
  /-- There is no such name. -/
  | unknownName
  /-- Nobody can be asked for the name. -/
  | lookupFailed
  /-- No way leads to the address. -/
  | unreachable
  /-- The machine has no address of the same kind. -/
  | noAddress
  /-- The address does not say on which link it is. -/
  | noLink
  deriving DecidableEq

/-- The wording of an obstacle. -/
def Obstacle.message : Obstacle → String
  | .path .missing => "No such file or directory (os error 2)"
  | .path .notDirectory => "Not a directory (os error 20)"
  | .pathTooLong => "path must be shorter than SUN_LEN"
  | .nulInPath => "paths must not contain interior null bytes"
  | .nulInName => "file name contained an unexpected NUL byte"
  | .unknownName => "failed to lookup address information: Name or service not known"
  | .lookupFailed =>
    "failed to lookup address information: Temporary failure in name resolution"
  | .unreachable => "Network is unreachable (os error 101)"
  | .noAddress => "Cannot assign requested address (os error 99)"
  | .noLink => "Invalid argument (os error 22)"

/-- The bytes that the path of a socket must be shorter than. -/
def socketPathLimit : Nat := 108

/-- The obstacle on the way to a socket. -/
def socketObstacle (path : List Char) : Obstacle :=
  if path.contains '\x00' then .nulInPath
  else if socketPathLimit ≤ Utf8.byteLength path then .pathTooLong
  else .path (FilePath.fault path)

/-- Up to four numbers, each of which is more than the mark of its base. -/
def isNumeric (cs : List Char) : Bool :=
  let parts := pieces (· == '.') cs
  let isMark (p : List Char) : Bool := p == ['0', 'x'] || p == ['0', 'X']
  parts.length ≤ 4 && !parts.any isMark &&
    ((parts.mapM Host.number?).bind (Host.ipv4OfNumbers? 4)).isSome

/-- Names of the machine itself. -/
def isLocal (cs : List Char) : Bool :=
  cs.map Char.toLower == "localhost".toList || cs == ['*']

/-- The obstacle on the way to an address of eight pieces: addresses of four bytes among them and
those of groups have no way, and the others no sender. -/
def ipv6Obstacle (ns : List Nat) : Obstacle :=
  let first := ns.headD 0
  if ns.take 6 = [0, 0, 0, 0, 0, 0xffff] ∨ 0xff00 ≤ first then .unreachable
  else if 0xfe80 ≤ first ∧ first ≤ 0xfebf then .noLink
  else .noAddress

/-- A name without the brackets around it. -/
def unbracketed (cs : List Char) : List Char :=
  let isBracket (c : Char) : Bool := c == '[' || c == ']'
  ((cs.dropWhile isBracket).reverse.dropWhile isBracket).reverse

/-- The obstacle on the way to a host. -/
def hostObstacle (name : List Char) : Obstacle :=
  let name := unbracketed name
  match Host.ipv6? name with
  | some ns => ipv6Obstacle ns
  | none =>
    if isNumeric name || isLocal name then .unreachable
    else if name.contains '\x00' then .nulInName
    else if DomainName.isValid name then .lookupFailed
    else .unknownName

/-- What keeps a machine without network from a target. -/
def Target.obstacle : Target → Obstacle
  | .socket path => socketObstacle path
  | .host name => hostObstacle name

/-- Tries to reach a target. -/
def reach : Network → Target → Except Obstacle Unit
  | .up, _ => .ok ()
  | .offline, t => .error t.obstacle

end Network

end Outbox
