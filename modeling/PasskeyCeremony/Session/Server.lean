import PasskeyCeremony.Http.Redirect
import PasskeyCeremony.Http.TextReader

/-!
# A scripted server

A server with a list of replies for each route, used in turn; the last one stays. A route is a
method and a path, whatever the host. What has no route is not found. The server may be out of
reach altogether, and then every request is lost.

The client of a session follows redirects, so one request of a ceremony can reach the server several
times. Its server writes UTF-8 whatever the content type of an answer says.
-/

namespace PasskeyCeremony.Session

open Http (Lost Request Response)

/-- Bodies in sessions are UTF-8. -/
instance utf8Texts : Http.TextReader :=
  ⟨fun _ bytes ↦ Text.Utf8.decodeLenient (Text.Utf8.dropByteOrderMark bytes)⟩

/-- What the server does with a request. -/
inductive Reply where
  /-- It answers. -/
  | answer (a : Response)
  /-- It closes the connection. -/
  | drop
  deriving DecidableEq, Repr

/-- A server. -/
structure Server where
  /-- Requests reach the server. -/
  reachable : Bool
  /-- The replies to come for each route. -/
  routes : List (String × List Reply)
  deriving DecidableEq, Repr

def notFound : Response := ⟨404, none, none, some []⟩

/-- The route of a request. -/
def routeOf (r : Request) : String := r.method.name ++ " " ++ String.ofList r.url.path.write

namespace Server

/-- The reply to a request, and the server afterwards. -/
def reply (s : Server) (r : Request) : Reply × Server :=
  match s.routes.lookup (routeOf r) with
  | none | some [] => (.answer notFound, s)
  | some [last] => (last, s)
  | some (first :: rest) =>
    (first, { s with
      routes := s.routes.map fun route ↦ if route.1 = routeOf r then (route.1, rest) else route })

/-- What came of a request, with the requests that the server received on the way. -/
structure Exchange where
  /-- The last answer, if there was one. -/
  result : Except Lost Response
  /-- The requests, in order. -/
  received : List Request
  /-- The server afterwards. -/
  server : Server

/-- Send a request and follow so many redirects. -/
def follow (s : Server) : Nat → Request → Exchange
  | redirects, r =>
    let received := { r with url := r.url.withoutFragment }
    match s.reply r with
    | (.drop, s) => ⟨.error ⟨"the connection was closed"⟩, [received], s⟩
    | (.answer a, s) =>
      match a.next? r with
      | none => ⟨.ok a, [received], s⟩
      | some next =>
        match redirects with
        | 0 => ⟨.error ⟨"there were too many redirects"⟩, [received], s⟩
        | redirects + 1 =>
          if next.isSendable then
            let e := s.follow redirects next
            { e with received := received :: e.received }
          else ⟨.error ⟨"the redirect cannot be followed"⟩, [received], s⟩

def exchange (s : Server) (r : Request) : Exchange :=
  if s.reachable then s.follow Http.maxRedirects r
  else ⟨.error ⟨"the server cannot be reached"⟩, [], s⟩

end Server

end PasskeyCeremony.Session
