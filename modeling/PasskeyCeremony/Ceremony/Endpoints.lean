import PasskeyCeremony.Ceremony.Program
import PasskeyCeremony.Http.FormData
import PasskeyCeremony.Http.TextReader
import PasskeyCeremony.Settings.Basic
import PasskeyCeremony.Text.Blank
import PasskeyCeremony.Url.Reader

/-!
# The endpoints of a server

The requests of ceremonies and how their answers are read. The paths of the endpoints are resolved
against the address of the server, and every request carries the token of the page. There are three
requests for options and one for a deletion.

How an answer is read is a function of the answer alone (`readOptions`, `readDeletion`), once it is
settled how texts are made of bodies. An answer of success that is not what was asked for counts as
a failure of the network; an answer of any other status is a refusal, whatever its body, and takes
from the body what the server said, if that can be made out.
-/

namespace PasskeyCeremony

/-- A server, the settings for it, and the library that requests are made with. -/
structure Client where
  /-- The address that paths are resolved against. -/
  base : Url
  settings : Settings
  [texts : Http.TextReader]

/-! ## Answers -/

namespace Http.Response

/-- The document in a body. -/
def json? (a : Response) : Option Json := (a.body.bind Text.Utf8.decode?).bind Json.parse?

/-- What a server says about a refusal, under `message` in a document. -/
def refusalMessage? (a : Response) : Option String := a.json?.bind (·.getString? "message")

end Http.Response

open Http (Response)

/-- Read an answer to a request for options. A refusal becomes a failure with the status and what
the server said. -/
def readOptions {α : Type} (context : String) (parse? : List Char → Option α)
    (refuse : Nat → Option String → Failure) (a : Response) : Except Failure α :=
  if a.isSuccess then
    match (a.body.bind Text.Utf8.decode?).bind parse? with
    | some options => .ok options
    | none => .error (.network context "the body holds no options")
  else .error (refuse a.status a.refusalMessage?)

/-- A refusal of options for signing in: the server answers 400 to users without a passkey only. -/
def refuseRequestOptions (status : Nat) : Failure :=
  if status = 400 then .noRegisteredPasskeys else .requestOptionsUnavailable status

def creationContext : String := "getting registration options"

def requestContext : String := "getting authentication options"

def deletionContext : String := "deleting passkey"

/-- Read options for a creation, a null attachment left out. -/
def readCreationOptions (a : Response) : Except Failure CreationOptions :=
  (readOptions creationContext CreationOptions.parse? .refusal a).map (·.dropNullAttachment)

/-- Read options for the retrieval that a registration needs first. -/
def readStepUpOptions (a : Response) : Except Failure RequestOptions :=
  readOptions requestContext RequestOptions.parse? .refusal a

/-- Read options for signing in. -/
def readRequestOptions (a : Response) : Except Failure RequestOptions :=
  readOptions requestContext RequestOptions.parse? (fun status _ ↦ refuseRequestOptions status) a

/-- Read an answer to a deletion. A body of nothing but blanks stands for null. -/
def readDeletion (texts : Http.TextReader) (a : Response) : Except Failure Json :=
  if a.isSuccess then
    match a.body with
    | none => .error (.network deletionContext "the body broke off")
    | some bytes =>
      let text := texts.read a.contentType bytes
      if text.all Text.isBlank then .ok .null
      else
        match Json.parse? text with
        | some v => .ok v
        | none => .error (.json "the body is no document")
  else .error (.refusal a.status a.refusalMessage?)

/-! ## Requests -/

namespace Client

/-- The address that a path of the server, or an address, stands for. -/
def resolve (c : Client) (href : String) : Except Failure Url :=
  (Url.resolve c.base href).mapError .url

def endpoint (c : Client) (name : String) : Except Failure Url :=
  c.resolve (c.settings.endpoint name)

def optionsRequest (url : Url) (csrfToken : String) : Http.Request :=
  ⟨.post, url, some csrfToken, some Http.FormData.contentType, none⟩

/-- The address of a passkey: its identifier is one segment of the path. -/
def passkeyUrl (c : Client) (id : String) : Except Failure Url :=
  c.endpoint (String.ofList (Url.Percent.encodeSegment id.toList))

/-- The request to delete a passkey, with the credential that allows it. -/
def deletionRequest (url : Url) (csrfToken credential : String) : Http.Request :=
  ⟨.delete, url, some csrfToken, some "text/plain", some credential⟩

end Client

namespace Attempt

/-- Send a request. One that cannot be put on the wire is lost at once. -/
def exchange (context : String) (request : Http.Request) : Attempt Response :=
  ExceptT.mk <|
    if request.isSendable then
      .ask (.send request) fun
        | .ok answer => .done (.ok answer)
        | .error lost => .done (.error (.network context lost.detail))
    else .done (.error (.network context "the request cannot be sent"))

/-- Fetch options from an endpoint. -/
def fetchOptions {α : Type} (c : Client) (name context csrfToken : String)
    (read : Response → Except Failure α) : Attempt α := do
  let url ← ofExcept (c.endpoint name)
  let answer ← exchange context (Client.optionsRequest url csrfToken)
  ofExcept (read answer)

/-- Fetch options for a creation. -/
def creationOptions (c : Client) (csrfToken : String) : Attempt CreationOptions :=
  fetchOptions c "registration-options" creationContext csrfToken readCreationOptions

def stepUpOptions (c : Client) (csrfToken : String) : Attempt RequestOptions :=
  fetchOptions c "registration-auth-options" requestContext csrfToken readStepUpOptions

def requestOptions (c : Client) (csrfToken : String) : Attempt RequestOptions :=
  fetchOptions c "auth-options" requestContext csrfToken readRequestOptions

def deletePasskey (c : Client) (id csrfToken credential : String) : Attempt Json := do
  let url ← ofExcept (c.passkeyUrl id)
  let answer ← exchange deletionContext (Client.deletionRequest url csrfToken credential)
  ofExcept (readDeletion c.texts answer)

end Attempt

end PasskeyCeremony
