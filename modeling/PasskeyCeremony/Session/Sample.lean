import PasskeyCeremony.Ceremony.Endpoints
import PasskeyCeremony.Session.Surroundings

/-!
# A plain session

A client of a server at one address, with the usual settings, in surroundings in which nothing is
scripted but the routes of the server.
-/

namespace PasskeyCeremony.Session.Sample

def address (path : List String) : Url :=
  ⟨"http", some ⟨"", "", some (.domain "janus.example"), none⟩, .segments path, none, none⟩

def client : Client := ⟨address [""], ⟨"/passkey", "/user-account", false, 500⟩⟩

/-- A server with these routes, a platform without credentials, and users who answer nothing. -/
def session (routes : List (String × List Reply)) : State where
  server := ⟨true, routes⟩
  creations := []
  retrievals := []
  outstanding := none
  conditional := none
  modals := .ofScripts []
  dialogs := .ofScripts []
  navigator := .recording []
  signals := []
  records := []

/-! ## Answers of the server -/

def unregistered : Http.Response := ⟨400, none, none, none⟩

/-- Options without members. -/
def options : Http.Response := ⟨200, none, none, some [0x7B, 0x7D]⟩

/-- The options `{"allowCredentials":[{}]}` for a user with one passkey. -/
def registered : Http.Response :=
  ⟨200, none, none, some [0x7B, 0x22, 0x61, 0x6C, 0x6C, 0x6F, 0x77, 0x43, 0x72, 0x65, 0x64, 0x65,
    0x6E, 0x74, 0x69, 0x61, 0x6C, 0x73, 0x22, 0x3A, 0x5B, 0x7B, 0x7D, 0x5D, 0x7D]⟩

/-- The options `{"authenticatorAttachment":null,"authenticatorSelection":
{"authenticatorAttachment":null,"residentKey":null}}`, in one line. -/
def nulls : Http.Response :=
  ⟨200, none, none, some [0x7B, 0x22, 0x61, 0x75, 0x74, 0x68, 0x65, 0x6E, 0x74, 0x69, 0x63, 0x61,
    0x74, 0x6F, 0x72, 0x41, 0x74, 0x74, 0x61, 0x63, 0x68, 0x6D, 0x65, 0x6E, 0x74, 0x22, 0x3A, 0x6E,
    0x75, 0x6C, 0x6C, 0x2C, 0x22, 0x61, 0x75, 0x74, 0x68, 0x65, 0x6E, 0x74, 0x69, 0x63, 0x61, 0x74,
    0x6F, 0x72, 0x53, 0x65, 0x6C, 0x65, 0x63, 0x74, 0x69, 0x6F, 0x6E, 0x22, 0x3A, 0x7B, 0x22, 0x61,
    0x75, 0x74, 0x68, 0x65, 0x6E, 0x74, 0x69, 0x63, 0x61, 0x74, 0x6F, 0x72, 0x41, 0x74, 0x74, 0x61,
    0x63, 0x68, 0x6D, 0x65, 0x6E, 0x74, 0x22, 0x3A, 0x6E, 0x75, 0x6C, 0x6C, 0x2C, 0x22, 0x72, 0x65,
    0x73, 0x69, 0x64, 0x65, 0x6E, 0x74, 0x4B, 0x65, 0x79, 0x22, 0x3A, 0x6E, 0x75, 0x6C, 0x6C, 0x7D,
    0x7D]⟩

end PasskeyCeremony.Session.Sample
