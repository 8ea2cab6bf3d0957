import PasskeyCeremony.Proofs.Ceremony.Answers
import PasskeyCeremony.Proofs.Json.Order
import PasskeyCeremony.Proofs.Options.Creation
import PasskeyCeremony.Proofs.Registration.Course
import PasskeyCeremony.Session.Sample

/-!
# The platform never sees a null attachment

The options that a credential is created with are the bundle that the server sent, after the repair.
The bundle is a document that was read from a text, so it is ordered and the repair is what
`CreationOptions.Repair` says it is.
-/

namespace PasskeyCeremony

open Http (Response)

/-- Options for a creation are read off a success whose body holds an object, and repaired. -/
theorem readCreationOptions_eq_ok_iff {a : Response} {options : CreationOptions} :
    readCreationOptions a = .ok options ↔
      a.Succeeds ∧ ∃ bundle : CreationOptions, a.Holds Json.parse? bundle.toJson ∧
        options = bundle.dropNullAttachment := by
  rw [readCreationOptions, map_readOptions, readOptions_eq_ok_iff, Response.issues_iff]
  refine and_congr_right fun _ ↦ ?_
  simp only [Response.Holds, Option.map_eq_some_iff, CreationOptions.parse?_eq_some_iff]
  constructor
  · rintro ⟨bytes, text, hbody, htext, bundle, hbundle, rfl⟩
    exact ⟨bundle, ⟨bytes, text, hbody, htext, hbundle⟩, rfl⟩
  · rintro ⟨bundle, ⟨bytes, text, hbody, htext, hbundle⟩, rfl⟩
    exact ⟨bytes, text, hbody, htext, bundle, hbundle, rfl⟩

theorem Http.Response.Holds.ordered {a : Response} {v : Json} (h : a.Holds Json.parse? v) :
    v.Ordered := by
  obtain ⟨_, _, -, -, hparse⟩ := h
  exact Json.ordered_of_parse? hparse

theorem Registration.Next.created {c : Client} {csrfToken : String} {inUse : List String}
    {h : List Event} {options : CreationOptions}
    (hnext : Next c csrfToken inUse h (.create options)) :
    ∃ earlier issued, h = earlier ++ [issued] ∧ CreationIssued c csrfToken options issued := by
  cases hnext with
  | create hcleared hissued => exact ⟨_, _, rfl, hissued⟩

/-- **The repair of creation options.** Over any bundle it takes out a null attachment and nothing
else, and once; and a registration, whatever it is answered, creates a credential with the bundle
that the server sent just before, repaired. -/
theorem attachment_repaired (c : Client) (csrfToken : String) (inUse : List String) :
    (∀ o : CreationOptions, o.toJson.Ordered → o.Repair) ∧
    ∀ (σ : Type) (w : Surroundings σ) (s : σ) before e after options,
      ((register c csrfToken inUse).run w s).events = before ++ e :: after →
      e.action = .create options →
      ∃ url a earlier, ∃ bundle : CreationOptions,
        c.endpoint "registration-options" = .ok url ∧
        before = earlier ++ [⟨.send (Client.optionsRequest url csrfToken), some (.ok a)⟩] ∧
        a.Succeeds ∧ a.Holds Json.parse? bundle.toJson ∧ bundle.toJson.Ordered ∧
        options = bundle.dropNullAttachment ∧
        options.toJson.at? CreationOptions.attachmentPath ≠ some .null := by
  refine ⟨fun o ↦ CreationOptions.repair_of_ordered, ?_⟩
  intro σ w s before e after options hsplit he
  have hnext := ((register_follows c csrfToken inUse).course w s).1 before e after hsplit
  rw [he] at hnext
  obtain ⟨earlier, issued, rfl, hurl, hread⟩ := hnext.created
  obtain ⟨hsuccess, bundle, hholds, rfl⟩ := readCreationOptions_eq_ok_iff.mp hread
  refine ⟨_, _, earlier, bundle, hurl, rfl, hsuccess, hholds, hholds.ordered, rfl, ?_⟩
  rw [ne_eq, ← CreationOptions.hasNullAttachment_iff_at?,
    CreationOptions.hasNullAttachment_dropNullAttachment]
  exact Bool.false_ne_true

/-- A null attachment is taken out of the selection; a null beside it and a null of the same name
further up are kept. A registration for which the server sends these options creates a credential
with what is left of them. -/
theorem attachment_repaired_among_nulls :
    let o : CreationOptions := ⟨[("authenticatorAttachment", .null), ("authenticatorSelection",
      .object [("authenticatorAttachment", .null), ("residentKey", .null)])]⟩
    (o.toJson.Ordered ∧ o.hasNullAttachment = true ∧
      o.dropNullAttachment.members = [("authenticatorAttachment", .null),
        ("authenticatorSelection", .object [("residentKey", .null)])] ∧
      o.dropNullAttachment.toJson.at? [.key "authenticatorAttachment"] = some .null ∧
      o.dropNullAttachment.hasNullAttachment = false) ∧
    ∃ (s : Session.State) (before after : List Event),
      ((register Session.Sample.client "token" []).run Session.surroundings s).events =
        before ++ ⟨.create o.dropNullAttachment, some (.ok none)⟩ :: after ∧
      o.dropNullAttachment.toJson.at? CreationOptions.attachmentPath ≠ some .null := by
  intro o
  have ho : o.toJson.Ordered := by
    simp only [o, CreationOptions.toJson, Json.Ordered, Json.OrderedMembers]
    decide
  obtain ⟨hrepaired, hcreated⟩ := attachment_repaired Session.Sample.client "token" []
  have hrepair := hrepaired o ho
  have hfound : o.hasNullAttachment = true := hrepair.found_iff.mpr ⟨_, rfl, rfl⟩
  let s := Session.Sample.session
    [("POST /passkey/registration-auth-options", [.answer Session.Sample.options]),
      ("POST /passkey/registration-options", [.answer Session.Sample.nulls])]
  let asked (path : String) (a : Response) : Event :=
    ⟨.send (Client.optionsRequest (Session.Sample.address ["passkey", path]) "token"), some (.ok a)⟩
  have hplays : (register Session.Sample.client "token" []).Plays Session.surroundings s
      ([asked "registration-auth-options" Session.Sample.options,
          asked "registration-options" Session.Sample.nulls] ++
        ⟨.create o.dropNullAttachment, some (.ok none)⟩ ::
          [⟨.notify (.of "Passkey registration failed" .error), some ()⟩]) (some .failed) := by
    refine .step rfl rfl ?_
    refine .step rfl rfl ?_
    refine .step rfl rfl ?_
    exact .step rfl rfl (Program.plays_done _ _)
  obtain ⟨_, _, _, _, -, -, -, -, -, -, hnull⟩ := hcreated _ _ s _ _ _ _ hplays.1 rfl
  exact ⟨⟨ho, hfound, by decide, hrepair.frame _ (by decide), hrepair.again.1⟩,
    s, _, _, hplays.1, hnull⟩

end PasskeyCeremony
