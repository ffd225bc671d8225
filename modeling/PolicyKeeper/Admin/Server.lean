import PolicyKeeper.Admin.Request
import PolicyKeeper.Admin.Response
import PolicyKeeper.Store.Plan

/-!
# Speaking to a server

A plan runs against an admin server by sending the request of each call and reading the response. A
server is told beforehand what it replies with. It may drop a request without a reply, and it may
not be reachable at all, in which case nothing arrives there; either way the call fails.
-/

namespace PolicyKeeper.Admin

/-- What a server does on a request. -/
inductive Reply where
  | respond (response : Response)
  /-- Closes the connection. -/
  | drop
deriving DecidableEq, Inhabited, Repr

/-- A server with the replies it has left. -/
structure Server where
  reachable : Bool := true
  replies : List Reply := []
  /-- The requests that arrived, the last one first. -/
  received : List Request := []
deriving DecidableEq, Inhabited

namespace Server

/-- What a server responds with that has no reply left. -/
def noReplyLeft : Response := { status := 500, body := "unscripted" }

/-- Sends a request: the response, if one comes back. -/
def send (r : Request) (s : Server) : Option Response × Server :=
  if s.reachable then
    let s' := { s with replies := s.replies.tail, received := r :: s.received }
    match s.replies.head? with
    | some (.respond response) => (some response, s')
    | some .drop => (none, s')
    | none => (some noReplyLeft, s')
  else (none, s)

end Server

/-- Answers a call by speaking to a server. -/
def Client.perform (client : Client) (c : Call) (s : Server) : Except Failure c.Answer × Server :=
  match s.send (client.request c) with
  | (some response, s) => (response.answer c, s)
  | (none, s) => (.error { tasks := [.sendingRequest c], cause := .outside }, s)

end PolicyKeeper.Admin
