import PasskeyCeremony.Ceremony.Program
import PasskeyCeremony.Http.FormData
import PasskeyCeremony.Session.Server
import PasskeyCeremony.Timeline.Dialogs
import PasskeyCeremony.Timeline.Modals

/-!
# Scripted surroundings

Surroundings for ceremonies that follow a script: a server with routes, a platform with replies to
come, two prompts over scripted views, and a navigator that either fails as the script says or sends
requests to the server itself. They keep a record of what reached them.

The platform replies after a delay, or never. A retrieval that is waited for within a window gives
its reply if the delay is not longer than the window, so a reply exactly at the end of the window
still counts.
-/

namespace PasskeyCeremony.Session

open Timeline (Dialogs Entry Modals)

/-- A reply of the platform and how long it takes, if it comes at all. -/
structure DelayedReply where
  /-- The delay in milliseconds; nothing where there never is a reply. -/
  delay : Option Nat
  /-- The reply. -/
  reply : PlatformReply

/-- A platform that has no credential. -/
def DelayedReply.nothing : DelayedReply := ⟨some 0, .ok none⟩

/-- The reply, if it comes within a window. -/
def DelayedReply.within? (r : DelayedReply) (window : Nat) : Option PlatformReply :=
  if r.delay.any (· ≤ window) then some r.reply else none

/-- What reached the surroundings. -/
inductive Record where
  /-- The server received a request. -/
  | request (r : Http.Request)
  /-- The platform was to create a credential. -/
  | create (options : CreationOptions)
  /-- The platform was to retrieve a credential. -/
  | retrieve (request : Retrieval)
  /-- The platform was asked whether it can involve the user conditionally. -/
  | conditional (answer : Bool)
  /-- A form was submitted. -/
  | form (f : Form)
  /-- Another page was gone to. -/
  | redirect (path : String)
  /-- The navigator failed. -/
  | navigationFailed (f : Failure)
  /-- The view of the confirmation prompt was told something. -/
  | modal (c : ModalCall)
  /-- The view of the naming prompt was told something. -/
  | naming (c : NamingCall)
  /-- A toast was shown. -/
  | toast (t : Toast)
  deriving DecidableEq

/-- How the page is left. -/
inductive Navigator where
  /-- Every navigation is recorded and fails with the next of these failures, where there is one. -/
  | recording (failures : List (Option Failure))
  /-- Every navigation is a request, its address resolved against a base. -/
  | requesting (base : Url)

/-- The state of scripted surroundings. -/
structure State where
  /-- The server. -/
  server : Server
  /-- The replies to creations to come. -/
  creations : List PlatformReply
  /-- The replies to retrievals to come. -/
  retrievals : List DelayedReply
  /-- The reply to the retrieval that is being waited for. -/
  outstanding : Option DelayedReply
  /-- What the platform says about involving the user conditionally; nothing where it cannot tell,
  which counts as a no. -/
  conditional : Option Bool
  /-- The confirmation prompt and its view. -/
  modals : Modals
  /-- The naming prompt and its view. -/
  dialogs : Dialogs
  /-- How the page is left. -/
  navigator : Navigator
  /-- For every signal that the platform was given, whether it has been raised. -/
  signals : List Bool
  /-- What reached the surroundings, the newest last. -/
  records : List Record

namespace State

/-- Keep more records. -/
def record (s : State) (rs : List Record) : State := { s with records := s.records ++ rs }

def send (s : State) (r : Http.Request) : Except Http.Lost Http.Response × State :=
  let e := s.server.exchange r
  (e.result, { s with server := e.server }.record (e.received.map .request))

def retrieve (s : State) (r : Retrieval) : State :=
  { s with
    outstanding := some (s.retrievals.head?.getD .nothing)
    retrievals := s.retrievals.tail
    signals := s.signals ++ if r.abortable then [false] else [] }.record [.retrieve r]

def raiseSignal (s : State) : State :=
  { s with signals := s.signals.dropLast ++ s.signals.getLast?.toList.map fun _ ↦ true }

/-- How long the caller of a prompt waits: a day. -/
def patience : Nat := 24 * 60 * 60 * 1000

/-- What a single job saw of its view. -/
def seen {ε ρ : Type} (entries : List (Entry ε ρ)) : List ε :=
  entries.filterMap fun
    | .seen e => some e
    | .ended _ _ => none

/-- What a single job came to. -/
def outcome? {ε ρ : Type} (entries : List (Entry ε ρ)) : Option ρ :=
  entries.findSome? fun
    | .ended _ r => r
    | .seen _ => none

def confirm (s : State) (q : Question) : Option Bool × State :=
  let run := Timeline.inTurn (Modals.work [q]) (Modals.bound [q]) s.modals [⟨0, patience⟩]
  (outcome? run.entries,
    { s with modals := run.state }.record ((seen run.entries).map .modal))

def chooseName (s : State) (inUse : List String) :
    Option (Except Failure (Option String)) × State :=
  let run := Timeline.inTurn (Dialogs.work [inUse]) (Dialogs.bound [inUse] s.dialogs.scripts)
    s.dialogs [⟨0, patience⟩]
  ((outcome? run.entries).map (·.answer),
    { s with dialogs := run.state }.record ((seen run.entries).map .naming))

/-- Send a request on behalf of the navigator. Every answer will do. -/
def navigate (s : State) (context : String) (r : Http.Request) : Except Failure Unit × State :=
  if r.isSendable then
    match s.send r with
    | (.ok _, s) => (.ok (), s)
    | (.error lost, s) => (.error (.network context lost.detail), s)
  else (.error (.network context "the request cannot be sent"), s)

/-- Take the next failure of a navigator that records. -/
def failNext (s : State) (failures : List (Option Failure)) : Except Failure Unit × State :=
  let s := { s with navigator := .recording failures.tail }
  match failures.head?.join with
  | none => (.ok (), s)
  | some f => (.error f, s.record [.navigationFailed f])

/-- The request that submits a form. -/
def formRequest (url : Url) (f : Form) : Http.Request :=
  ⟨.post, url, none, some Http.FormData.contentType, some (Http.FormData.encode f.fields)⟩

def submit (s : State) (f : Form) : Except Failure Unit × State :=
  let s := s.record [.form f]
  match s.navigator with
  | .recording failures => s.failNext failures
  | .requesting base =>
    match Url.resolve base f.action with
    | .error fault => (.error (.url fault), s)
    | .ok url => s.navigate "submitting form" (formRequest url f)

def redirect (s : State) (path : String) : Except Failure Unit × State :=
  let s := s.record [.redirect path]
  match s.navigator with
  | .recording failures => s.failNext failures
  | .requesting base =>
    match Url.resolve base path with
    | .error fault => (.error (.url fault), s)
    | .ok url => s.navigate "redirecting" ⟨.get, url, none, none, none⟩

def respond (s : State) : (action : Action) → Option action.Answer × State
  | .send r => s.send r |>.map some id
  | .askConditional =>
    (some (s.conditional.getD false), s.record (s.conditional.toList.map .conditional))
  | .create options =>
    (some (s.creations.head?.getD (.ok none)),
      { s with creations := s.creations.tail }.record [.create options])
  | .retrieve r => (some (), s.retrieve r)
  | .await =>
    (s.outstanding.bind fun r ↦ r.delay.map fun _ ↦ r.reply, { s with outstanding := none })
  | .awaitWithin window => (some (s.outstanding.bind (·.within? window)), s)
  | .abandon => (some (), { s with outstanding := none })
  | .abort => (some (), s.raiseSignal)
  | .confirm q => s.confirm q
  | .chooseName inUse => s.chooseName inUse
  | .submit f => s.submit f |>.map some id
  | .redirect path => s.redirect path |>.map some id
  | .notify t => (some (), s.record [.toast t])

end State

/-- The surroundings that follow a script. -/
def surroundings : Surroundings State := ⟨State.respond⟩

end PasskeyCeremony.Session
