import PasskeyCeremony.Proofs.Base64.Repair
import PasskeyCeremony.Proofs.Credential.Normal
import PasskeyCeremony.Proofs.Json.Path

/-!
# The walk through a credential

The repair of a document is the repair of its children, whether they are items or members; what a
member is repaired to depends on its key as well. In this form (`children_repairEncoding`,
`log_repairEncoding`) the repair is a walk that turns nowhere back, so its log is the log of one
node after the other.

Main statement: the log is exact (`log_repairEncoding_exact`). Along the tour of the document, each
text of a field has its lines and nothing else has any. A text is warned about exactly if it is no
encoding once it is repaired, and the strict check that decides this in the walk is complete, so no
encoding of whatever bytes is warned about.
-/

namespace PasskeyCeremony.Credential

open Json (Path Step)

/-! ## One step of the walk -/

/-- A child, repaired: a member together with its key, an item by itself. -/
def repairChild : Step × Json → Logged Json
  | (.key k, v) => repairMember (k, v)
  | (.index _, v) => repairEncoding v

theorem children_repairEncoding (v : Json) :
    (repairEncoding v).value.children =
      v.children.map fun c ↦ (c.1, (repairChild c).value) := by
  cases v with
  | null | bool _ | number _ | string _ =>
    rw [repairEncoding_of_isScalar]
    · rfl
    · trivial
  | array items =>
    rw [value_repairEncoding_array, Json.children, Json.children, List.zipIdx_map, List.map_map,
      List.map_map]
    rfl
  | object ms =>
    rw [value_repairEncoding_object, Json.children, Json.children, List.map_map, List.map_map]
    rfl

theorem child?_repairEncoding (v : Json) (step : Step) :
    (repairEncoding v).value.child? step =
      (v.child? step).map fun w ↦ (repairChild (step, w)).value := by
  cases v with
  | null | bool _ | number _ | string _ =>
    rw [repairEncoding_of_isScalar]
    · rfl
    · trivial
  | array items =>
    rw [value_repairEncoding_array]
    cases step with
    | key k => rfl
    | index i => exact List.getElem?_map
  | object ms =>
    rw [value_repairEncoding_object]
    cases step with
    | key k => exact Members.get?_map (fun k w ↦ (repairMember (k, w)).value) ms k
    | index i => rfl

theorem log_repairEncoding (v : Json) :
    (repairEncoding v).log = v.children.flatMap fun c ↦ (repairChild c).log := by
  cases v with
  | null | bool _ | number _ | string _ =>
    rw [repairEncoding_of_isScalar]
    · rfl
    · trivial
  | array items =>
    rw [log_repairEncoding_array, Json.children, List.flatMap_map]
    conv_lhs => rw [← List.zipIdx_map_fst 0 items, List.flatMap_map]
    rfl
  | object ms =>
    rw [log_repairEncoding_object, Json.children, List.flatMap_map]
    rfl

/-! ## Fields -/

/-- The field that a path leads to: its last step is a key, and one of the seven. -/
def fieldOf? (path : Path) : Option String :=
  match path.getLast? with
  | some (.key k) => if k ∈ base64UrlFields then some k else none
  | _ => none

theorem fieldOf?_cons {step : Step} {path : Path} (h : path ≠ []) :
    fieldOf? (step :: path) = fieldOf? path := by
  rw [fieldOf?, fieldOf?, List.getLast?_cons_of_ne_nil h]

/-- A child is either the text of a field or repaired as it would be anywhere. -/
theorem repairChild_cases (c : Step × Json) :
    (∃ key s, c = (.key key, .string s) ∧ fieldOf? [c.1] = some key ∧
        repairChild c = repairField key s) ∨
      (∀ s, c.2 = .string s → fieldOf? [c.1] = none) ∧ repairChild c = repairEncoding c.2 := by
  obtain ⟨_ | _, v⟩ := c
  case key k =>
    rcases repairMember_cases (k, v) with ⟨s, rfl, hfield, hrepair⟩ | ⟨hother, hrepair⟩
    · exact Or.inl ⟨k, s, rfl, if_pos hfield, hrepair⟩
    · exact Or.inr ⟨fun s hs ↦ if_neg (hother s hs), hrepair⟩
  case index i => exact Or.inr ⟨fun _ _ ↦ rfl, rfl⟩

/-! ## What is logged -/

/-- The line about a text that was repaired. -/
def convertedLine (key : String) : Log.Line :=
  ⟨.debug, s!"Converted {key} from Base64 to Base64URL"⟩

/-- The lines that the text of a field calls for: one if the repair changes it, and one if it is no
encoding even then. -/
def fieldLines (key s : String) : List Log.Line :=
  (if repairText s = s then [] else [convertedLine key]) ++
    if Base64.IsEncoding (repairText s).toList then [] else [invalidLine key]

/-- The lines that a node calls for. -/
def nodeLines (n : Path × Json) : List Log.Line :=
  match fieldOf? n.1, n.2 with
  | some key, .string s => fieldLines key s
  | _, _ => []

theorem repairLog_eq (key s : String) : repairLog key s = fieldLines key s := by
  have hcheck : Base64.isUrlEncoding (Base64.repair s.toList) = true ↔
      Base64.IsEncoding (repairText s).toList := by
    rw [Base64.isUrlEncoding_iff, repairText, String.toList_ofList]
  rw [repairLog, fieldLines]
  simp only [hcheck]
  rfl

theorem nodeLines_eq_nil {path : Path} {v : Json}
    (h : ∀ s, v = .string s → fieldOf? path = none) : nodeLines (path, v) = [] := by
  cases hfield : fieldOf? path with
  | none => simp only [nodeLines, hfield]
  | some key =>
    cases v with
    | string s =>
      rw [h s rfl] at hfield
      cases hfield
    | null | bool _ | number _ | array _ | object _ => simp only [nodeLines, hfield]

theorem nodeLines_cons {step : Step} {path : Path} (h : path ≠ []) (v : Json) :
    nodeLines (step :: path, v) = nodeLines (path, v) := by
  simp only [nodeLines, fieldOf?_cons h]

/-- Seen from one step further up, only the value itself may have come to be a field. -/
private theorem log_repairChild {c : Step × Json}
    (ih : (repairEncoding c.2).log = c.2.nodes.flatMap nodeLines) :
    (repairChild c).log = (Json.under c.1 c.2.nodes).flatMap nodeLines := by
  rcases repairChild_cases c with ⟨key, s, rfl, hfield, hrepair⟩ | ⟨hother, hrepair⟩
  · have hnodes : (Json.string s).nodes = [([], .string s)] := Json.nodes_eq _
    rw [hrepair, repairField, repairLog_eq, hnodes, Json.under, List.map_singleton,
      List.flatMap_singleton]
    simp only [nodeLines, hfield]
  · rw [hrepair, ih, Json.under, List.flatMap_map]
    -- the child itself is no field; what is inside it is one for the path inside the child
    refine List.flatMap_congr fun n hn ↦ ?_
    rw [Json.nodes_eq, List.mem_cons, List.mem_flatMap] at hn
    rcases hn with rfl | ⟨d, -, hd⟩
    · rw [nodeLines_eq_nil hother, nodeLines_eq_nil fun _ _ ↦ rfl]
    · obtain ⟨path, hpath, -⟩ := Json.exists_of_mem_under hd
      rw [nodeLines_cons (hpath ▸ List.cons_ne_nil _ _)]

/-- The walk logs one node after the other. -/
theorem log_repairEncoding_eq_flatMap (v : Json) :
    (repairEncoding v).log = v.nodes.flatMap nodeLines := by
  induction v using Json.child_induction with
  | step v ih =>
    have hself : nodeLines ([], v) = [] := by cases v <;> rfl
    rw [log_repairEncoding, Json.nodes_eq, List.flatMap_cons, hself, List.nil_append,
      List.flatMap_assoc]
    exact List.flatMap_congr fun c hc ↦ log_repairChild (ih c hc)

theorem invalidLine_mem_fieldLines_iff {key s : String} :
    invalidLine key ∈ fieldLines key s ↔ ¬Base64.IsEncoding (repairText s).toList := by
  have hconverted : invalidLine key ≠ convertedLine key := fun h ↦
    Log.Level.noConfusion (congrArg Log.Line.level h)
  have hfirst : invalidLine key ∉ if repairText s = s then [] else [convertedLine key] := by
    split
    · exact List.not_mem_nil
    · exact fun h ↦ hconverted (List.mem_singleton.mp h)
  rw [fieldLines, List.mem_append, or_iff_right hfirst]
  by_cases h : Base64.IsEncoding (repairText s).toList
  · rw [if_pos h]
    exact iff_of_false List.not_mem_nil (not_not_intro h)
  · rw [if_neg h]
    exact iff_of_true List.mem_cons_self h

/-- **The log is exact.** An ordered document has one tour, and the log is that of its nodes one
after the other: each text of a field has the line that it was converted if the repair changes it,
then the warning if its repaired form is the encoding of no byte string, and nothing else has a
line. So a length of `4 * n + 1`, a foreign character, padding inside and bits too many are warned
about, and none of the four encodings of a byte string is. -/
theorem log_repairEncoding_exact {v : Json} (hv : v.Ordered) :
    (∃ tour, v.IsTour tour) ∧
      (∀ tour, v.IsTour tour → (repairEncoding v).log = tour.flatMap nodeLines) ∧
      (∀ key s, invalidLine key ∈ fieldLines key s ↔ ¬Base64.IsSound (repairText s).toList) ∧
      ∀ key a padded bs, invalidLine key ∉ fieldLines key (Base64.text a padded bs) := by
  have hnodes := Json.isTour_nodes hv
  refine ⟨⟨_, hnodes⟩, fun tour htour ↦ ?_, fun key s ↦ ?_, fun key a padded bs ↦ ?_⟩
  · rw [log_repairEncoding_eq_flatMap, htour.unique hnodes]
  · rw [invalidLine_mem_fieldLines_iff, Base64.isEncoding_iff_isSound]
  · rw [invalidLine_mem_fieldLines_iff, not_not, Base64.repairText_text, Base64.toList_text]
    exact ⟨bs, rfl⟩

/-- Of three texts, the first one is converted, the second one has an impossible length and the
third one is both converted and no encoding. What is no field has no line. -/
theorem log_repairEncoding_exact_three :
    let v : Json := .object [("id", .string "ab+/=="), ("response", .object [("origin",
      .string "a+="), ("signature", .string "abcde")]), ("userHandle", .string "a+b=c=")]
    v.Ordered ∧ (repairEncoding v).log = v.nodes.flatMap nodeLines ∧
      (repairEncoding v).log = [convertedLine "id", invalidLine "signature",
        convertedLine "userHandle", invalidLine "userHandle"] := by
  intro v
  have hv : v.Ordered := by
    simp only [v, Json.Ordered, Json.OrderedMembers]
    decide
  exact ⟨hv, (log_repairEncoding_exact hv).2.1 _ (Json.isTour_nodes hv), by decide⟩

end PasskeyCeremony.Credential
