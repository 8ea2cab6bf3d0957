import PasskeyCeremony.Ceremony.Endpoints
import PasskeyCeremony.Proofs.Ceremony.Exchange
import PasskeyCeremony.Proofs.Url.Web
import PasskeyCeremony.Session.Sample

/-!
# The address of a passkey

A passkey is deleted at an address of its own: the route of the endpoints and one more segment,
which is the encoded identifier. Encoding leaves dots alone, so two identifiers have no such
address. What `.` stands for is the route with a slash, and what `..` stands for is the route
without its last segment; all other identifiers are named by their address (`passkeyUrl_names`).
-/

namespace PasskeyCeremony

open Url Percent

/-- The paths of the endpoints begin with a route of plain segments. -/
structure Settings.HasRoute (settings : Settings) (route : List String) : Prop where
  routePrefix_eq : settings.routePrefix = String.ofList (writeSegments route)
  isPlain : ∀ s ∈ route, IsPlain s

namespace Client

variable {c : Client} {route : List String}

/-- The segments of the address of a passkey. -/
def passkeySegments (route : List String) (id : String) : List String :=
  if id = ".." then route.dropLast ++ [""]
  else if id = "." then route ++ [""]
  else route ++ [String.ofList (encodeSegment id.toList)]

/-- The identifiers whose address is the route with a slash. -/
def bareIds (route : List String) : List String :=
  if route = [] then ["", ".", ".."] else ["", "."]

/-- The address consists of the route and one segment that is decoded to the identifier. -/
def Names (route : List String) (id : String) (url : Url) : Prop :=
  ∃ last, url.path = .segments (route ++ [last]) ∧
    decode last.toList = Text.Utf8.encode id.toList

/-! ## Resolving the address -/

private theorem addSegments_passkey (hroute : ∀ s ∈ route, IsPlain s) (id : String) :
    addSegments .network [] (route.map String.toList ++ [encodeSegment id.toList]) =
      passkeySegments route id := by
  rw [addSegments_append_singleton, foldl_addSegment_plain hroute, List.nil_append,
    passkeySegments]
  by_cases hdots : id = ".."
  · rw [if_pos hdots, addSegment, if_pos, if_pos rfl]
    · rfl
    · rw [isDoubleDot_encodeSegment, hdots]
      rfl
  rw [if_neg hdots]
  by_cases hdot : id = "."
  · rw [if_pos hdot, addSegment, if_neg, if_pos, if_pos rfl]
    · rw [isSingleDot_encodeSegment, hdot]
      rfl
    · rw [isDoubleDot_encodeSegment, hdot]
      decide
  · rw [if_neg hdot, addSegment_encodeSegment]
    · exact fun h ↦ hdot (String.toList_inj.mp h)
    · exact fun h ↦ hdots (String.toList_inj.mp h)

theorem passkeyUrl_eq (hbase : c.base.IsWeb) (hroute : c.settings.HasRoute route) (id : String) :
    c.passkeyUrl id = .ok ⟨c.base.scheme, c.base.authority, .segments (passkeySegments route id),
      none, none⟩ := by
  have htext : (c.settings.routePrefix ++ "/" ++
      String.ofList (encodeSegment id.toList)).toList =
      (route.map String.toList ++ [encodeSegment id.toList]).flatMap ('/' :: ·) := by
    rw [hroute.routePrefix_eq, String.toList_append, String.toList_append, String.toList_ofList,
      String.toList_ofList, String.toList_ofList, writeSegments, List.flatMap_append,
      List.flatMap_map, List.flatMap_singleton, List.append_assoc, List.singleton_append]
  have hparts : ∀ s ∈ route.map String.toList ++ [encodeSegment id.toList],
      ∀ ch ∈ s, isSegmentChar ch = true := by
    intro s hs ch hch
    rcases List.mem_append.mp hs with hs | hs
    · obtain ⟨t, ht, rfl⟩ := List.mem_map.mp hs
      exact isSegmentChar_of_isUnreserved ((hroute.isPlain t ht).unreserved ch hch)
    · rw [List.mem_singleton.mp hs] at hch
      exact isSegmentChar_of_mem_encodeSegment hch
  have hsegments := addSegments_passkey hroute.isPlain id
  -- the first part is empty only where there is no route, and then it is the last one
  have hempty : ∀ rest, route.map String.toList ++ [encodeSegment id.toList] = [] :: rest →
      rest = [] := by
    intro rest hcons
    cases route with
    | nil => exact (List.cons.inj hcons).2.symm
    | cons s ss =>
      have hs := (List.cons.inj hcons).1
      exact absurd (String.toList_eq_nil_iff.mp hs) (hroute.isPlain s List.mem_cons_self).ne_empty
  rw [passkeyUrl, endpoint, Settings.endpoint, resolve, Url.resolve, htext]
  generalize hall : route.map String.toList ++ [encodeSegment id.toList] = parts at *
  cases parts with
  | nil => simp at hall
  | cons first rest =>
    have hread := read_segments (hparts first List.mem_cons_self)
      (fun s hs ↦ hparts s (List.mem_cons_of_mem first hs)) hbase
      (fun hfirst ↦ hempty rest (by rw [hfirst]))
    rw [List.flatMap_cons, List.cons_append, hread, hsegments]
    rfl

/-! ## Telling addresses apart -/

private theorem ofList_encodeSegment_eq_empty {id : String} :
    String.ofList (encodeSegment id.toList) = "" ↔ id = "" := by
  have hnil : encodeSegment id.toList = encodeSegment [] ↔ id.toList = [] := encodeSegment_inj
  rw [String.ofList_eq_empty_iff, ← String.toList_eq_nil_iff]
  exact hnil

private theorem mem_bareIds {id : String} :
    id ∈ bareIds route ↔ id = "" ∨ id = "." ∨ (id = ".." ∧ route = []) := by
  rw [bareIds]
  split <;> simp [*]

private theorem dropLast_append_ne (hroute : route ≠ []) (last last' : String) :
    route.dropLast ++ [last] ≠ route ++ [last'] := by
  intro h
  have hlength := congrArg List.length h
  rw [List.length_append, List.length_append, List.length_dropLast] at hlength
  have hpos := List.length_pos_iff.mpr hroute
  simp only [List.length_singleton] at hlength
  omega

private theorem passkeySegments_of_ne {id : String} (hdots : id ≠ "..") (hdot : id ≠ ".") :
    passkeySegments route id = route ++ [String.ofList (encodeSegment id.toList)] := by
  rw [passkeySegments, if_neg hdots, if_neg hdot]

theorem passkeySegments_eq_bare {id : String} :
    passkeySegments route id = route ++ [""] ↔ id ∈ bareIds route := by
  rw [mem_bareIds]
  by_cases hdots : id = ".."
  · rw [passkeySegments, if_pos hdots]
    by_cases hroute : route = []
    · rw [hroute]
      exact ⟨fun _ ↦ Or.inr (Or.inr ⟨hdots, rfl⟩), fun _ ↦ rfl⟩
    · refine ⟨fun h ↦ absurd h (dropLast_append_ne hroute _ _), fun h ↦ ?_⟩
      rw [hdots] at h
      simp [hroute] at h
  by_cases hdot : id = "."
  · rw [passkeySegments, if_neg hdots, if_pos hdot]
    exact ⟨fun _ ↦ Or.inr (Or.inl hdot), fun _ ↦ rfl⟩
  · rw [passkeySegments_of_ne hdots hdot, List.append_cancel_left_eq, List.cons.injEq,
      ofList_encodeSegment_eq_empty]
    simp [hdot, hdots]

/-- Two identifiers share an address only if it is the bare one. -/
theorem passkeySegments_inj {id other : String} :
    passkeySegments route other = passkeySegments route id ↔
      other = id ∨ (other ∈ bareIds route ∧ id ∈ bareIds route) := by
  constructor
  · intro h
    by_cases hid : id ∈ bareIds route
    · have hother := passkeySegments_eq_bare.mp (h.trans (passkeySegments_eq_bare.mpr hid))
      exact Or.inr ⟨hother, hid⟩
    have hother : other ∉ bareIds route := fun hother ↦
      hid (passkeySegments_eq_bare.mp (h.symm.trans (passkeySegments_eq_bare.mpr hother)))
    rw [mem_bareIds, not_or, not_or, not_and] at hid hother
    left
    -- neither is a single dot now; a double dot leads out of the route, anything else stays in it
    by_cases hdots : id = ".." <;> by_cases hdots' : other = ".."
    · rw [hdots, hdots']
    · rw [passkeySegments_of_ne hdots' hother.2.1, passkeySegments, if_pos hdots] at h
      exact absurd h.symm (dropLast_append_ne (hid.2.2 hdots) _ _)
    · rw [passkeySegments_of_ne hdots hid.2.1, passkeySegments, if_pos hdots'] at h
      exact absurd h (dropLast_append_ne (hother.2.2 hdots') _ _)
    · rw [passkeySegments_of_ne hdots hid.2.1, passkeySegments_of_ne hdots' hother.2.1,
        List.append_cancel_left_eq, List.cons.injEq, String.ofList_inj] at h
      exact String.toList_inj.mp (encodeSegment_inj.mp h.1)
  · rintro (rfl | ⟨hother, hid⟩)
    · rfl
    · rw [passkeySegments_eq_bare.mpr hother, passkeySegments_eq_bare.mpr hid]

/-- The address of a passkey names all identifiers but the two dot segments. -/
theorem names_iff {url : Url} {id : String}
    (hpath : url.path = .segments (passkeySegments route id)) :
    Names route id url ↔ id ≠ "." ∧ id ≠ ".." := by
  simp only [Names, hpath, Path.segments.injEq]
  constructor
  · rintro ⟨last, hlast, hdecode⟩
    have hbare : id ∈ bareIds route → id = "" := by
      intro hid
      rw [passkeySegments_eq_bare.mpr hid, List.append_cancel_left_eq, List.cons.injEq] at hlast
      rw [← hlast.1] at hdecode
      have hnil : Text.Utf8.encode [] = Text.Utf8.encode id.toList := hdecode
      exact String.toList_eq_nil_iff.mp (Text.Utf8.encode_inj.mp hnil).symm
    constructor
    · rintro rfl
      exact absurd (hbare (mem_bareIds.mpr (Or.inr (Or.inl rfl)))) (by decide)
    · rintro rfl
      by_cases hroute : route = []
      · exact absurd (hbare (mem_bareIds.mpr (Or.inr (Or.inr ⟨rfl, hroute⟩)))) (by decide)
      · exact dropLast_append_ne hroute _ _ hlast
  · rintro ⟨hdot, hdots⟩
    refine ⟨_, passkeySegments_of_ne hdots hdot, ?_⟩
    rw [String.toList_ofList, decode_encodeSegment]

end Client

private theorem events_deletePasskey {σ : Type} (w : Surroundings σ) (s : σ) {c : Client}
    {id : String} {url : Url} (hurl : c.passkeyUrl id = .ok url) (csrfToken credential : String) :
    ∀ e ∈ ((Attempt.deletePasskey c id csrfToken credential).run.run w s).events,
      e.action = .send (Client.deletionRequest url csrfToken credential) := by
  have hfollows : (Attempt.deletePasskey c id csrfToken credential).run.Follows
      (fun _ q ↦ q = .send (Client.deletionRequest url csrfToken credential))
      (fun _ _ ↦ True) [] := by
    refine Attempt.follows_deletePasskey (fun _ _ ↦ trivial) (fun _ _ _ ↦ trivial) ?_
      (fun _ _ _ ↦ trivial) (fun _ _ _ ↦ trivial)
    intro url' hurl' _
    rw [Except.ok.inj (hurl.symm.trans hurl')]
  intro e he
  obtain ⟨before, after, hsplit⟩ := List.append_of_mem he
  exact (hfollows.course w s).1 before e after hsplit

/-- **The address of a passkey.** The request to delete goes to it. It has the scheme and the
authority of the server and neither query nor fragment, and it names the identifier unless that is a
dot segment. Different identifiers share an address only if it is the bare one. -/
theorem passkeyUrl_names {c : Client} {route : List String} (hbase : c.base.IsWeb)
    (hroute : c.settings.HasRoute route) (id : String) :
    ∃ url, c.passkeyUrl id = .ok url ∧
      (∀ {σ : Type} (w : Surroundings σ) (s : σ) (csrfToken credential : String),
        ∀ e ∈ ((Attempt.deletePasskey c id csrfToken credential).run.run w s).events,
          e.action = .send (Client.deletionRequest url csrfToken credential)) ∧
      url.scheme = c.base.scheme ∧ url.authority = c.base.authority ∧
      url.query = none ∧ url.fragment = none ∧
      (Client.Names route id url ↔ id ≠ "." ∧ id ≠ "..") ∧
      ∀ other, c.passkeyUrl other = .ok url ↔
        other = id ∨ (other ∈ Client.bareIds route ∧ id ∈ Client.bareIds route) := by
  have hurl := Client.passkeyUrl_eq hbase hroute id
  refine ⟨_, hurl, fun w s ↦ events_deletePasskey w s hurl, rfl, rfl, rfl, rfl,
    Client.names_iff rfl, fun other ↦ ?_⟩
  rw [Client.passkeyUrl_eq hbase hroute other, ← Client.passkeySegments_inj]
  simp

/-- On a server whose address is read from a text, the single dot is not named by its address, which
is also that of the empty identifier. -/
theorem passkeyUrl_dot_not_named :
    ∃ c : Client, Url.ofText "http://[::1]/" = .ok c.base ∧ c.base.IsWeb ∧
      c.settings.HasRoute ["passkey"] ∧
      ∃ url, c.passkeyUrl "." = .ok url ∧ c.passkeyUrl "" = .ok url ∧
        ¬Client.Names ["passkey"] "." url := by
  let loopback : Url :=
    ⟨"http", some ⟨"", "", some (.ipv6 [0, 0, 0, 0, 0, 0, 0, 1]), none⟩, .segments [""], none, none⟩
  let c : Client := { Session.Sample.client with base := loopback }
  have hread : Url.ofText "http://[::1]/" = .ok c.base := rfl
  have hbase : c.base.IsWeb := isWeb_of_ofText hread rfl
  have hroute : c.settings.HasRoute ["passkey"] := by
    refine ⟨by decide, fun s hs ↦ ?_⟩
    rw [List.mem_singleton.mp hs]
    exact ⟨by decide, by decide, by decide, List.all_eq_true.mp (by decide)⟩
  obtain ⟨url, hurl, -, -, -, -, -, hnames, hother⟩ := passkeyUrl_names hbase hroute "."
  refine ⟨c, hread, hbase, hroute, url, hurl, ?_, fun hnamed ↦ (hnames.mp hnamed).1 rfl⟩
  exact (hother "").mpr (Or.inr ⟨by decide, by decide⟩)

end PasskeyCeremony
