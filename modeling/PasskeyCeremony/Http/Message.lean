import PasskeyCeremony.Url.Basic

/-!
# Requests and answers

What a client sends to a server and what comes back. A request may carry a token against forged
requests in a header of its own. An exchange that comes to no answer is lost; an answer whose body
breaks off is an answer all the same, with nothing as its body.
-/

namespace PasskeyCeremony.Http

/-- What a request wants done. -/
inductive Method where
  | get
  | post
  | delete
  deriving DecidableEq, Repr

def Method.name : Method → String
  | get => "GET"
  | post => "POST"
  | delete => "DELETE"

/-- A request. -/
structure Request where
  /-- What is wanted. -/
  method : Method
  /-- Of what. -/
  url : Url
  /-- The token against forged requests. -/
  csrfToken : Option String
  /-- The type of the body. -/
  contentType : Option String
  /-- The body. -/
  body : Option String
  deriving DecidableEq, Repr

/-- An answer. -/
structure Response where
  /-- What became of the request. -/
  status : Nat
  /-- The type of the body. -/
  contentType : Option String
  /-- Where to go instead. -/
  location : Option String
  /-- The body, if it could be read. -/
  body : Option (List UInt8)
  deriving DecidableEq, Repr

/-- An exchange without an answer. -/
structure Lost where
  /-- Text for diagnosis. -/
  detail : String
  deriving DecidableEq, Repr

def Response.isSuccess (r : Response) : Bool := 200 ≤ r.status && r.status < 300

/-- A character that a header may hold. -/
def isHeaderChar (c : Char) : Bool := c == '\t' || (0x20 ≤ c.toNat && c.toNat != 0x7F)

/-- A text that can be the value of a header. -/
def isHeaderValue (s : String) : Bool := s.toList.all isHeaderChar

/-- A request that can be put on the wire. -/
def Request.isSendable (r : Request) : Bool := r.url.isHttp && r.csrfToken.all isHeaderValue

end PasskeyCeremony.Http
