import PasskeyCeremony.Proofs.Ceremony.Exchange
import PasskeyCeremony.Proofs.Text.Ends
import PasskeyCeremony.Session.Sample

/-!
# Every answer of the server

Each of the four operations on the server sends one request and ends with what it makes of the
reply (`Attempt.Sends`). The reply is a failure of the transport, or an answer with any status and
any body. What is made of an answer is settled by three questions, which are asked here without the
functions that read answers: is the status one of success (`Response.Succeeds`), does the body hold
what was asked for (`Response.Holds`), and what does the server say about a refusal
(`Response.Says`).

Options and refusals are read from the bytes of a body, and the answer to a deletion from its text
(`Response.HasText`), which is the library's business. Of a body that is UTF-8 by its content type
or its byte order mark (`Response.IsUtf8`) the text is known.
-/

namespace PasskeyCeremony

open Http (Lost Request Response TextReader)

/-! ## Answers -/

theorem Json.getString?_eq_some_iff {v : Json} {key said : String} :
    v.getString? key = some said ↔
      ∃ members, v = .object members ∧ Members.get? members key = some (.string said) := by
  have hstring : ∀ w : Json, w.asString? = some said ↔ w = .string said := by
    intro w
    cases w <;> simp [asString?]
  rw [getString?, Option.bind_eq_some_iff]
  simp only [hstring]
  cases v <;> simp [get?]

namespace Http.Response

/-- The status is one of success. -/
def Succeeds (a : Response) : Prop := 200 ≤ a.status ∧ a.status < 300

/-- The body could be read, it is text, and the text stands for a value. -/
def Holds {α : Type} (parse? : List Char → Option α) (a : Response) (v : α) : Prop :=
  ∃ bytes text, a.body = some bytes ∧ Text.Utf8.decode? bytes = some text ∧ parse? text = some v

/-- The server says something about a refusal: it is the string under `message` in an object. -/
def Says (a : Response) (said : String) : Prop :=
  ∃ members, a.Holds Json.parse? (.object members) ∧
    Members.get? members "message" = some (.string said)

/-- A refusal has the status of the answer, and for a message what the server says or, if it says
nothing, a text with the status. -/
def Refuses (a : Response) (f : Failure) : Prop :=
  (∃ said, a.Says said ∧ f = .server a.status said) ∨
    (∀ said, ¬a.Says said) ∧ f = .server a.status (Failure.fallbackMessage a.status)

/-- A refusal of options for signing in does not depend on the body. -/
def RefusesSignIn (a : Response) (f : Failure) : Prop :=
  a.status = 400 ∧ f = .noRegisteredPasskeys ∨
    a.status ≠ 400 ∧ f = .requestOptionsUnavailable a.status

/-- The body could be read, and this is its text. -/
def HasText (a : Response) (texts : TextReader) (text : List Char) : Prop :=
  ∃ bytes, a.body = some bytes ∧ texts.read a.contentType bytes = text

/-- The body could be read, it is UTF-8, and this is what it says after any byte order mark. -/
def IsUtf8 (a : Response) (text : List Char) : Prop :=
  ∃ bytes, Text.Utf8.decode? bytes = some text ∧
    (a.body = some bytes ∧ IsUtf8Type a.contentType ∧ ¬Text.Utf8.byteOrderMark <+: bytes ∨
      a.body = some (Text.Utf8.byteOrderMark ++ bytes))

variable {a : Response} {texts : TextReader} {text : List Char} {said : String} {f : Failure}

/-- A body that is UTF-8 has the text that it says. -/
theorem IsUtf8.hasText (h : a.IsUtf8 text) (htexts : texts.Lawful) : a.HasText texts text := by
  obtain ⟨bytes, hdecode, ⟨hbody, htype, hmark⟩ | hbody⟩ := h
  · exact ⟨bytes, hbody, htexts.utf8 _ _ _ htype hmark hdecode⟩
  · exact ⟨_, hbody, htexts.marked _ _ _ hdecode⟩

theorem HasText.unique {text' : List Char} (h : a.HasText texts text)
    (h' : a.HasText texts text') : text = text' := by
  obtain ⟨bytes, hbody, rfl⟩ := h
  obtain ⟨bytes', hbody', rfl⟩ := h'
  rw [Option.some.inj (hbody.symm.trans hbody')]

theorem isSuccess_iff : a.isSuccess = true ↔ a.Succeeds := by
  rw [isSuccess, Bool.and_eq_true, decide_eq_true_iff, decide_eq_true_iff, Succeeds]

theorem holds_iff {α : Type} {parse? : List Char → Option α} {v : α} :
    a.Holds parse? v ↔ (a.body.bind Text.Utf8.decode?).bind parse? = some v := by
  rw [Holds]
  constructor
  · rintro ⟨bytes, text, hbody, htext, hparse⟩
    rw [hbody, Option.bind_some, htext, Option.bind_some, hparse]
  · intro h
    obtain ⟨text, htext, hparse⟩ := Option.bind_eq_some_iff.mp h
    obtain ⟨bytes, hbody, hdecode⟩ := Option.bind_eq_some_iff.mp htext
    exact ⟨bytes, text, hbody, hdecode, hparse⟩

theorem issues_iff {α : Type} {parse? : List Char → Option α} {v : α} :
    a.Issues parse? v ↔ a.Succeeds ∧ a.Holds parse? v := by
  rw [Issues, isSuccess_iff, holds_iff]

theorem says_iff : a.Says said ↔ a.refusalMessage? = some said := by
  rw [refusalMessage?, json?, Option.bind_eq_some_iff]
  simp only [Json.getString?_eq_some_iff, Says, holds_iff]
  constructor
  · rintro ⟨members, hholds, hsaid⟩
    exact ⟨_, hholds, members, rfl, hsaid⟩
  · rintro ⟨_, hholds, members, rfl, hsaid⟩
    exact ⟨members, hholds, hsaid⟩

theorem refuses_iff : a.Refuses f ↔ Failure.refusal a.status a.refusalMessage? = f := by
  rw [Refuses]
  simp only [says_iff, Failure.refusal]
  cases a.refusalMessage? with
  | none => simp [eq_comm]
  | some said => simp [eq_comm]

theorem refusesSignIn_iff : a.RefusesSignIn f ↔ refuseRequestOptions a.status = f := by
  rw [RefusesSignIn, refuseRequestOptions]
  by_cases hstatus : a.status = 400 <;> simp [hstatus, eq_comm]

end Http.Response

/-! ## Replies -/

/-- What is made of the replies to a request for options. A failure of the transport is one of the
network. Of the answers, those of success that hold options issue them, and exactly those; those of
success that do not are failures of the network, and exactly those; all others are refusals. -/
structure ClassifiesOptions {α : Type} (context : String) (parse? : List Char → Option α)
    (Refused : Response → Failure → Prop) (result : Except Lost Response → Except Failure α) :
    Prop where
  lost : ∀ l, ∃ detail, result (.error l) = .error (.network context detail)
  issued : ∀ a v, result (.ok a) = .ok v ↔ a.Succeeds ∧ a.Holds parse? v
  network : ∀ a, (∃ detail, result (.ok a) = .error (.network context detail)) ↔
    a.Succeeds ∧ ∀ v, ¬a.Holds parse? v
  refused : ∀ a f, ¬a.Succeeds → (result (.ok a) = .error f ↔ Refused a f)

/-- What is made of the replies to a deletion. The text of an answer of success is read as null if
there is nothing in it but blanks, and as a document otherwise; a body that could not be read is a
failure of the network, as is one of the transport; and all other answers are refusals. -/
structure ClassifiesDeletion (texts : TextReader)
    (result : Except Lost Response → Except Failure Json) : Prop where
  lost : ∀ l, ∃ detail, result (.error l) = .error (.network deletionContext detail)
  read : ∀ a v, result (.ok a) = .ok v ↔ a.Succeeds ∧ ∃ text, a.HasText texts text ∧
    (Text.Chars.trim text = [] ∧ v = .null ∨
      Text.Chars.trim text ≠ [] ∧ Json.parse? text = some v)
  network : ∀ a, (∃ detail, result (.ok a) = .error (.network deletionContext detail)) ↔
    a.Succeeds ∧ a.body = none
  json : ∀ a, (∃ detail, result (.ok a) = .error (.json detail)) ↔ a.Succeeds ∧
    ∃ text, a.HasText texts text ∧ Text.Chars.trim text ≠ [] ∧ Json.parse? text = none
  refused : ∀ a f, ¬a.Succeeds → (result (.ok a) = .error f ↔ a.Refuses f)

/-- What a reply comes to: a failure of the transport, or what the answer is read as. -/
def resultOf {α : Type} (context : String) (read : Response → Except Failure α) :
    Except Lost Response → Except Failure α
  | .ok a => read a
  | .error l => .error (.network context l.detail)

variable {α β : Type} {context : String} {parse? : List Char → Option α}
  {refuse : Nat → Option String → Failure} {texts : TextReader} {a : Response}

/-! ### Options -/

theorem readOptions_of_not_holds (hsuccess : a.Succeeds) (hnone : ∀ v, ¬a.Holds parse? v) :
    readOptions context parse? refuse a =
      .error (.network context "the body holds no options") := by
  have hparse : (a.body.bind Text.Utf8.decode?).bind parse? = none := by
    rw [Option.eq_none_iff_forall_ne_some]
    exact fun v hv ↦ hnone v (Response.holds_iff.mpr hv)
  rw [readOptions, if_pos (Response.isSuccess_iff.mpr hsuccess), hparse]

theorem readOptions_of_not_succeeds (hfails : ¬a.Succeeds) :
    readOptions context parse? refuse a = .error (refuse a.status a.refusalMessage?) := by
  rw [readOptions, if_neg (fun hsuccess ↦ hfails (Response.isSuccess_iff.mp hsuccess))]

theorem map_readOptions (f : α → β) (a : Response) :
    (readOptions context parse? refuse a).map f =
      readOptions context (fun text ↦ (parse? text).map f) refuse a := by
  rw [readOptions, readOptions]
  cases a.body.bind Text.Utf8.decode? with
  | none => split <;> rfl
  | some text =>
    rw [Option.bind_some, Option.bind_some]
    cases parse? text <;> split <;> rfl

/-- Options are read as the classification says, if refusals are. -/
theorem classifiesOptions {Refused : Response → Failure → Prop}
    (hrefused : ∀ a f, Refused a f ↔ refuse a.status a.refusalMessage? = f)
    (hnetwork : ∀ status said detail, refuse status said ≠ .network context detail) :
    ClassifiesOptions context parse? Refused
      (resultOf context (readOptions context parse? refuse)) where
  lost l := ⟨l.detail, rfl⟩
  issued a v := readOptions_eq_ok_iff.trans Response.issues_iff
  network a := by
    rw [resultOf]
    constructor
    · rintro ⟨detail, hdetail⟩
      by_cases hsuccess : a.Succeeds
      · refine ⟨hsuccess, fun v hv ↦ ?_⟩
        rw [readOptions_eq_ok_iff.mpr (Response.issues_iff.mpr ⟨hsuccess, hv⟩)] at hdetail
        cases hdetail
      · rw [readOptions_of_not_succeeds hsuccess] at hdetail
        exact absurd (Except.error.inj hdetail) (hnetwork _ _ _)
    · rintro ⟨hsuccess, hnone⟩
      exact ⟨_, readOptions_of_not_holds hsuccess hnone⟩
  refused a f hfails := by
    rw [resultOf, readOptions_of_not_succeeds hfails, Except.error.injEq, hrefused]

theorem refusal_ne_network (status : Nat) (said : Option String) (detail : String) :
    Failure.refusal status said ≠ .network context detail :=
  nofun

theorem refuseRequestOptions_ne_network (status : Nat) (detail : String) :
    refuseRequestOptions status ≠ .network context detail := by
  rw [refuseRequestOptions]
  by_cases hstatus : status = 400
  · rw [if_pos hstatus]
    rintro ⟨⟩
  · rw [if_neg hstatus]
    rintro ⟨⟩

/-! ### Deletions -/

/-- All that can become of an answer to a deletion. -/
inductive DeletionRead (texts : TextReader) (a : Response) : Except Failure Json → Prop where
  | refused (hfails : ¬a.Succeeds) :
      DeletionRead texts a (.error (.refusal a.status a.refusalMessage?))
  | unreadable (hsuccess : a.Succeeds) (hbody : a.body = none) :
      DeletionRead texts a (.error (.network deletionContext "the body broke off"))
  | blank {text : List Char} (hsuccess : a.Succeeds) (htext : a.HasText texts text)
      (hblank : Text.Chars.trim text = []) : DeletionRead texts a (.ok .null)
  | document {text : List Char} {v : Json} (hsuccess : a.Succeeds) (htext : a.HasText texts text)
      (hblank : Text.Chars.trim text ≠ []) (hparse : Json.parse? text = some v) :
      DeletionRead texts a (.ok v)
  | noDocument {text : List Char} (hsuccess : a.Succeeds) (htext : a.HasText texts text)
      (hblank : Text.Chars.trim text ≠ []) (hparse : Json.parse? text = none) :
      DeletionRead texts a (.error (.json "the body is no document"))

theorem exists_deletionRead (texts : TextReader) (a : Response) : ∃ r, DeletionRead texts a r := by
  by_cases hsuccess : a.Succeeds
  · cases hbody : a.body with
    | none => exact ⟨_, .unreadable hsuccess hbody⟩
    | some bytes =>
      have htext : a.HasText texts _ := ⟨bytes, hbody, rfl⟩
      by_cases hblank : Text.Chars.trim (texts.read a.contentType bytes) = []
      · exact ⟨_, .blank hsuccess htext hblank⟩
      · cases hparse : Json.parse? (texts.read a.contentType bytes) with
        | none => exact ⟨_, .noDocument hsuccess htext hblank hparse⟩
        | some v => exact ⟨_, .document hsuccess htext hblank hparse⟩
  · exact ⟨_, .refused hsuccess⟩

theorem readDeletion_of_hasText {text : List Char} (hsuccess : a.Succeeds)
    (htext : a.HasText texts text) :
    readDeletion texts a = if text.all Text.isBlank then .ok .null
      else
        match Json.parse? text with
        | some v => .ok v
        | none => .error (.json "the body is no document") := by
  obtain ⟨status, contentType, location, body⟩ := a
  obtain ⟨bytes, hbody, rfl⟩ := htext
  obtain rfl : body = some bytes := hbody
  exact if_pos (Response.isSuccess_iff.mpr hsuccess)

theorem DeletionRead.eq {r : Except Failure Json} (h : DeletionRead texts a r) :
    readDeletion texts a = r := by
  cases h with
  | refused hfails =>
    rw [readDeletion, if_neg (fun hsuccess ↦ hfails (Response.isSuccess_iff.mp hsuccess))]
  | unreadable hsuccess hbody =>
    rw [readDeletion, if_pos (Response.isSuccess_iff.mpr hsuccess), hbody]
  | blank hsuccess htext hblank =>
    rw [readDeletion_of_hasText hsuccess htext, if_pos (Text.Chars.trim_eq_nil_iff.mp hblank)]
  | document hsuccess htext hblank hparse =>
    have hsome := mt Text.Chars.trim_eq_nil_iff.mpr hblank
    rw [readDeletion_of_hasText hsuccess htext, if_neg hsome, hparse]
  | noDocument hsuccess htext hblank hparse =>
    have hsome := mt Text.Chars.trim_eq_nil_iff.mpr hblank
    rw [readDeletion_of_hasText hsuccess htext, if_neg hsome, hparse]

theorem deletionRead_of_eq {r : Except Failure Json} (h : readDeletion texts a = r) :
    DeletionRead texts a r := by
  obtain ⟨r', hr'⟩ := exists_deletionRead texts a
  rwa [← h, hr'.eq]

/-- Answers to a deletion are read as the classification says. -/
theorem classifiesDeletion (texts : TextReader) :
    ClassifiesDeletion texts (resultOf deletionContext (readDeletion texts)) where
  lost l := ⟨l.detail, rfl⟩
  read a v := by
    constructor
    · intro hread
      cases deletionRead_of_eq hread with
      | blank hsuccess htext hblank => exact ⟨hsuccess, _, htext, Or.inl ⟨hblank, rfl⟩⟩
      | document hsuccess htext hblank hparse =>
        exact ⟨hsuccess, _, htext, Or.inr ⟨hblank, hparse⟩⟩
    · rintro ⟨hsuccess, text, htext, ⟨hblank, rfl⟩ | ⟨hblank, hparse⟩⟩
      · exact (DeletionRead.blank hsuccess htext hblank).eq
      · exact (DeletionRead.document hsuccess htext hblank hparse).eq
  network a := by
    constructor
    · rintro ⟨detail, hread⟩
      cases deletionRead_of_eq hread with
      | unreadable hsuccess hbody => exact ⟨hsuccess, hbody⟩
    · rintro ⟨hsuccess, hbody⟩
      have hunreadable : DeletionRead texts a _ := .unreadable hsuccess hbody
      exact ⟨_, hunreadable.eq⟩
  json a := by
    constructor
    · rintro ⟨detail, hread⟩
      cases deletionRead_of_eq hread with
      | noDocument hsuccess htext hblank hparse => exact ⟨hsuccess, _, htext, hblank, hparse⟩
    · rintro ⟨hsuccess, text, htext, hblank, hparse⟩
      exact ⟨_, (DeletionRead.noDocument hsuccess htext hblank hparse).eq⟩
  refused a f hfails := by
    rw [resultOf, (DeletionRead.refused hfails).eq, Except.error.injEq, Response.refuses_iff]

/-! ## Operations -/

/-- An operation sends one request to an address and ends with what it makes of the reply. Without
an address nothing is sent, and a request that cannot be sent is a failure of the network. -/
structure Attempt.Sends (p : Attempt α) (address : Except Failure Url) (context : String)
    (request : Url → Request) (result : Except Lost Response → Except Failure α) : Prop where
  unresolved : ∀ f, address = .error f → p.run = .done (.error f)
  unsendable : ∀ url, address = .ok url → (request url).isSendable = false →
    ∃ detail, p.run = .done (.error (.network context detail))
  sent : ∀ url, address = .ok url → (request url).isSendable = true →
    p.run = .ask (.send (request url)) fun reply ↦ .done (result reply)

theorem Attempt.sends (address : Except Failure Url) (context : String)
    (request : Url → Request) (read : Response → Except Failure α) :
    Sends (do
      let url ← ofExcept address
      let answer ← exchange context (request url)
      ofExcept (read answer)) address context request (resultOf context read) where
  unresolved f haddress := by
    rw [haddress]
    rfl
  unsendable url haddress hsendable := by
    refine ⟨"the request cannot be sent", ?_⟩
    have hexchange : exchange context (request url) =
        ExceptT.mk (.done (.error (.network context "the request cannot be sent"))) := by
      rw [exchange, hsendable]
      rfl
    rw [haddress]
    change (exchange context (request url) >>= fun answer ↦ ofExcept (read answer)).run = _
    rw [hexchange]
    rfl
  sent url haddress hsendable := by
    rw [haddress]
    change (exchange context (request url) >>= fun answer ↦ ofExcept (read answer)).run = _
    rw [exchange, if_pos hsendable]
    change Program.ask _ _ = _
    congr 1
    funext reply
    cases reply <;> rfl

theorem Text.Utf8.decodeLenient_of_decode? {bytes : List UInt8} {text : List Char}
    (h : decode? bytes = some text) : decodeLenient bytes = text := by
  rw [decode?] at h
  rw [decodeLenient]
  generalize read bytes = chars at h
  induction chars generalizing text with
  | nil => exact Option.some.inj h
  | cons c chars ih =>
    rw [List.mapM_cons] at h
    obtain ⟨d, hd, htail⟩ := Option.bind_eq_some_iff.mp h
    obtain rfl : c = some d := hd
    obtain ⟨rest, hrest, hpure⟩ := Option.bind_eq_some_iff.mp htail
    obtain rfl := Option.some.inj hpure
    rw [List.map_cons, ih hrest, Option.getD_some]

theorem Text.Utf8.dropByteOrderMark_eq_self {bytes : List UInt8}
    (h : ¬byteOrderMark <+: bytes) : dropByteOrderMark bytes = bytes := by
  unfold dropByteOrderMark
  split
  · exact absurd ⟨_, rfl⟩ h
  · rfl

/-- The library of sessions is as documented. -/
theorem Session.lawful_utf8Texts : utf8Texts.Lawful where
  utf8 _ bytes _ _ hmark hdecode := by
    change Text.Utf8.decodeLenient (Text.Utf8.dropByteOrderMark bytes) = _
    rw [Text.Utf8.dropByteOrderMark_eq_self hmark, Text.Utf8.decodeLenient_of_decode? hdecode]
  marked _ _ _ hdecode := Text.Utf8.decodeLenient_of_decode? hdecode

end PasskeyCeremony
