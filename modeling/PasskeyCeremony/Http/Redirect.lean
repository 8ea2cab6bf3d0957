import PasskeyCeremony.Http.Message
import PasskeyCeremony.Url.Reader

/-!
# Redirects

An answer that names another place makes the client go there: where an answer says that something
has moved, a posted request becomes a plain one without its body; where it says to look elsewhere,
every request does; and where it says to repeat, the request is repeated as it is. An answer without
a place that can be read is the last one. At most ten redirects are followed.
-/

namespace PasskeyCeremony.Http

/-- The most redirects that are followed. -/
def maxRedirects : Nat := 10

def Request.asGet (r : Request) : Request :=
  { r with method := .get, contentType := none, body := none }

/-- The request that an answer asks for, before it gets its address. -/
def Response.redirected? (a : Response) (r : Request) : Option Request :=
  match a.status with
  | 301 | 302 => some (if r.method = .post then r.asGet else r)
  | 303 => some r.asGet
  | 307 | 308 => some r
  | _ => none

/-- The request that follows upon an answer, if there is one. -/
def Response.next? (a : Response) (r : Request) : Option Request := do
  let request ← a.redirected? r
  let place ← a.location
  match Url.resolve r.url place with
  | .ok url => return { request with url := url }
  | .error _ => none

end PasskeyCeremony.Http
