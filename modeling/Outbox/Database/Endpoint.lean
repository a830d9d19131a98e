import Outbox.Config.Basic
import Outbox.Decimal.Integer
import Outbox.Network.Basic
import Outbox.Text.Quoted
import Outbox.Url.Reader

/-!
# Where the database listens

The database is given by a URL of any scheme: the host or the directory of a socket, the service
number, the user, and the database as path.  Options in the query come after these and may name
another host.  What the URL leaves open is taken from the variables that the database has for it.  All
of it is read before a connection is tried, so a fault in it shows whether or not there is a network.
-/

namespace Outbox.Database

open Outbox.Decimal Outbox.Text

/-- Where the database listens: at a socket, if a directory is given, and else at a host. -/
structure Endpoint where
  directory : Option (List Char)
  host : List Char
  portNumber : Nat
  deriving DecidableEq

/-- Why a URL gives no endpoint. -/
inductive EndpointFault
  | url (fault : Url.Fault)
  /-- A part is no text once it is decoded. -/
  | text (fault : Utf8.Fault)
  | number (fault : IntegerError)
  | address
  | encryption (mode : String)
  deriving DecidableEq

/-- The wording of a fault. -/
def EndpointFault.message : EndpointFault → String
  | .url f => f.message
  | .text f => f.message
  | .number f => f.message
  | .address => "invalid IP address syntax"
  | .encryption mode =>
    "error with configuration: unknown value " ++ quoted mode ++ " for \x60ssl_mode\x60"

namespace Endpoint

/-- The variables that name a host, the more important one first. -/
def hostVariables : List String := ["PGHOSTADDR", "PGHOST"]

/-- The variable that holds a service number. -/
def numberVariable : String := "PGPORT"

/-- The service number where nothing else is said. -/
def usualNumber : Nat := 5432

/-- The service number of the variables; one that cannot be read does not count. -/
def standardNumber (env : Environment) : Nat :=
  match (env.get? numberVariable).map fun v => readInteger .word16 v.toList with
  | some (.ok n) => n.toNat
  | _ => usualNumber

/-- The endpoint where the URL says nothing. -/
def standard (env : Environment) : Endpoint where
  directory := none
  host := ((hostVariables.findSome? env.get?).getD "localhost").toList
  portNumber := standardNumber env

/-- The target of a connection; the name of a socket holds the service number, and a host may be the
directory of one. -/
def target (e : Endpoint) : Network.Target :=
  let socketIn (d : List Char) : Network.Target :=
    .socket (d ++ "/.s.PGSQL.".toList ++ digits e.portNumber)
  match e.directory with
  | some d => socketIn d
  | none => if e.host.head? = some '/' then socketIn e.host else .host e.host

/-- The bytes of a part of a URL. -/
def bytes (cs : List Char) : List UInt8 := Percent.decode (Utf8.encode (String.ofList cs))

/-- Decodes a part of a URL that has to be text. -/
def decoded (cs : List Char) : Except EndpointFault (List Char) :=
  match Utf8.fault? (bytes cs) with
  | some f => .error (.text f)
  | none => .ok (Utf8.decodeLossy (bytes cs)).toList

/-- Takes the host of a URL; one whose name begins with an encoded slash is a directory. -/
def withHost (e : Endpoint) : Option Host → Except EndpointFault Endpoint
  | none => .ok e
  | some (.name []) => .ok e
  | some (.name cs) =>
    if (bytes cs).head? = some 0x2f then do
      let d ← decoded cs
      .ok { e with directory := some d }
    else .ok { e with host := cs }
  | some h => .ok { e with host := h.text }

/-- The pairs of a query; a plus sign stands for a blank. -/
def pairs (query : List Char) : List (String × String) :=
  let text (cs : List Char) : String :=
    Utf8.decodeLossy (bytes (cs.map fun c => if c = '+' then ' ' else c))
  ((pieces (· == '&') query).filter fun p => !p.isEmpty).map fun p =>
    let (key, value) := cut '=' p
    (text key, text (value.getD []))

/-- The ways of encrypting a connection. -/
def encryptionModes : List String :=
  ["disable", "allow", "prefer", "require", "verify-ca", "verify-full"]

/-- A number that an option holds. -/
def number (range : IntegerRange) (value : String) : Except EndpointFault Nat :=
  match readInteger range value.toList with
  | .ok n => .ok n.toNat
  | .error e => .error (.number e)

/-- Takes an option into account. -/
def withOption (e : Endpoint) (key value : String) : Except EndpointFault Endpoint :=
  match key with
  | "sslmode" | "ssl-mode" =>
    if encryptionModes.contains (String.ofList (value.toList.map Char.toLower)) then .ok e
    else .error (.encryption value)
  | "statement-cache-capacity" => (number .word64 value).map fun _ => e
  | "port" => (number .word16 value).map fun n => { e with portNumber := n }
  | "host" =>
    .ok (if value.startsWith "/" then { e with directory := some value.toList }
      else { e with host := value.toList })
  | "hostaddr" =>
    if (Host.dotted? value.toList).isSome || (Host.ipv6? value.toList).isSome then
      .ok { e with host := value.toList }
    else .error .address
  | _ => .ok e

/-- The endpoint that a URL gives. -/
def ofUrl (env : Environment) (u : Url) : Except EndpointFault Endpoint := do
  let e ← (standard env).withHost u.host
  let _ ← decoded u.username
  let _ ← decoded u.password
  let _ ← decoded (u.path.dropWhile (· == '/'))
  (pairs (u.query.getD [])).foldlM (fun e (key, value) => e.withOption key value)
    { e with portNumber := u.portNumber.getD e.portNumber }

/-- The endpoint that a text gives. -/
def ofText (env : Environment) (s : String) : Except EndpointFault Endpoint := do
  let u ← (Url.ofText s).mapError .url
  ofUrl env u

end Endpoint

end Outbox.Database
