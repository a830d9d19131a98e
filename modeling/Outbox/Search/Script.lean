import Outbox.Search.Client
import Outbox.Text.Utf8

/-!
# A scripted search index

A transport whose replies are written down beforehand, each used once and in order, and which keeps
every request and every wait.  When the script has ended, everything succeeds and nothing is found.
-/

namespace Outbox.Search

open Outbox.Time

/-- The replies to come, and what happened so far. -/
structure Script where
  replies : List Exchange
  /-- Whether connections can be made. -/
  reachable : Bool
  requests : List Request
  waits : List Duration
  deriving DecidableEq

namespace Script

/-- The reply after the end of the script. -/
def success : Exchange :=
  .reply 200
    (Text.Utf8.encode
      "\x7b\"errors\":false,\"items\":[],\"hits\":\x7b\"hits\":[]\x7d\x7d")
    true

/-- A script of replies, with nothing sent yet. -/
def ofReplies (reachable : Bool) (replies : List Exchange) : Script := ⟨replies, reachable, [], []⟩

/-- Takes the next reply. -/
def exchange (request : Request) (s : Script) : Exchange × Script :=
  if !s.reachable then (.refused, s)
  else
    let s := { s with requests := s.requests ++ [request] }
    match s.replies with
    | [] => (success, s)
    | r :: rest => (r, { s with replies := rest })

/-- The transport of a script. -/
def transport : Transport Script where
  exchange := exchange
  wait d s := { s with waits := s.waits ++ [d] }

end Script

end Outbox.Search
