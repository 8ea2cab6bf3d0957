import PasskeyCeremony.Credential.Basic
import PasskeyCeremony.Proofs.Json.Inside

/-!
# The normal form of a credential

Normalising is two passes, and they do not commute: the second one takes values out of an object
and puts them into a list, where the first one would treat them differently. What makes the result a
fixed point all the same is that the second pass cannot undo the first. It only moves whole values,
and it moves them to places where no field name stands over them (`IsEncoded.listTransports`). So
the result satisfies the two conditions of `IsNormal`, and a document that satisfies them is left as
it is by either pass.

The first pass is defined by recursion through three types; here it is first brought into the form
of a map over items and members.
-/

namespace PasskeyCeremony.Credential

/-! ## The walk as a map -/

/-- One member of an object, repaired. -/
def repairMember (m : String × Json) : Logged Json :=
  match m with
  | (key, .string s) => if key ∈ base64UrlFields then repairField key s else .quiet (.string s)
  | (_, v) => repairEncoding v

theorem repairMembers_cons (m : String × Json) (rest : List (String × Json)) :
    repairMembers (m :: rest) =
      .zipWith (fun v ms ↦ (m.1, v) :: ms) (repairMember m) (repairMembers rest) := by
  obtain ⟨key, v⟩ := m
  cases v <;> simp [repairMembers, repairMember]

theorem repairEncoding_of_isScalar {v : Json} (hv : v.IsScalar) : repairEncoding v = .quiet v := by
  cases v with
  | array _ | object _ => exact hv.elim
  | null | bool _ | number _ | string _ => rw [repairEncoding] <;> simp

theorem value_repairItems (items : List Json) :
    (repairItems items).value = items.map fun v ↦ (repairEncoding v).value := by
  induction items with
  | nil => simp [repairItems]
  | cons v rest ih => rw [repairItems, Logged.value_zipWith, ih, List.map_cons]

theorem log_repairItems (items : List Json) :
    (repairItems items).log = items.flatMap fun v ↦ (repairEncoding v).log := by
  induction items with
  | nil => simp [repairItems]
  | cons v rest ih => rw [repairItems, Logged.log_zipWith, ih, List.flatMap_cons]

theorem value_repairMembers (ms : List (String × Json)) :
    (repairMembers ms).value = ms.map fun m ↦ (m.1, (repairMember m).value) := by
  induction ms with
  | nil => simp [repairMembers]
  | cons m rest ih => rw [repairMembers_cons, Logged.value_zipWith, ih, List.map_cons]

theorem log_repairMembers (ms : List (String × Json)) :
    (repairMembers ms).log = ms.flatMap fun m ↦ (repairMember m).log := by
  induction ms with
  | nil => simp [repairMembers]
  | cons m rest ih => rw [repairMembers_cons, Logged.log_zipWith, ih, List.flatMap_cons]

@[simp] theorem value_repairEncoding_array (items : List Json) :
    (repairEncoding (.array items)).value =
      .array (items.map fun v ↦ (repairEncoding v).value) := by
  rw [repairEncoding, Logged.value_map, value_repairItems]

theorem log_repairEncoding_array (items : List Json) :
    (repairEncoding (.array items)).log = items.flatMap fun v ↦ (repairEncoding v).log := by
  rw [repairEncoding, Logged.log_map, log_repairItems]

@[simp] theorem value_repairEncoding_object (ms : List (String × Json)) :
    (repairEncoding (.object ms)).value =
      .object (ms.map fun m ↦ (m.1, (repairMember m).value)) := by
  rw [repairEncoding, Logged.value_map, value_repairMembers]

theorem log_repairEncoding_object (ms : List (String × Json)) :
    (repairEncoding (.object ms)).log = ms.flatMap fun m ↦ (repairMember m).log := by
  rw [repairEncoding, Logged.log_map, log_repairMembers]

theorem eq_string_of_value_repairEncoding {v : Json} {s : String}
    (h : (repairEncoding v).value = .string s) : v = .string s := by
  cases v with
  | array items => rw [value_repairEncoding_array] at h; cases h
  | object ms => rw [value_repairEncoding_object] at h; cases h
  | null | bool _ | number _ => simp [repairEncoding] at h
  | string t => simpa [repairEncoding] using h

/-- A member is either a string under one of the seven names or repaired as its value is. -/
theorem repairMember_cases (m : String × Json) :
    (∃ s, m.2 = .string s ∧ m.1 ∈ base64UrlFields ∧ repairMember m = repairField m.1 s) ∨
      (∀ s, m.2 = .string s → m.1 ∉ base64UrlFields) ∧ repairMember m = repairEncoding m.2 := by
  obtain ⟨key, v⟩ := m
  cases v with
  | null | bool _ | number _ | array _ | object _ => exact Or.inr ⟨nofun, rfl⟩
  | string s =>
    by_cases hkey : key ∈ base64UrlFields
    · exact Or.inl ⟨s, rfl, hkey, if_pos hkey⟩
    · refine Or.inr ⟨fun _ _ ↦ hkey, ?_⟩
      rw [repairEncoding_of_isScalar (v := .string s) trivial]
      exact if_neg hkey

/-! ## Encoded documents -/

/-- Every string under one of the seven names, at any depth, is free of what sets the other forms of
Base64 apart. -/
def IsEncoded (v : Json) : Prop :=
  ∀ key ∈ base64UrlFields, ∀ s, v.Holds key s → Base64.IsRepaired s.toList

theorem isEncoded_of_isScalar {v : Json} (hv : v.IsScalar) : IsEncoded v :=
  fun key _ s hs ↦ absurd hs (hv.not_holds key s)

theorem isEncoded_array_iff {items : List Json} :
    IsEncoded (.array items) ↔ ∀ v ∈ items, IsEncoded v := by
  constructor
  · intro h v hv key hkey s hs
    exact h key hkey s (.item hv hs)
  · intro h key hkey s hs
    cases hs with
    | item hv hs => exact h _ hv key hkey s hs

theorem isEncoded_object_iff {ms : List (String × Json)} :
    IsEncoded (.object ms) ↔
      ∀ m ∈ ms, (∀ s, m.2 = .string s → m.1 ∈ base64UrlFields → Base64.IsRepaired s.toList) ∧
        IsEncoded m.2 := by
  constructor
  · intro h m hm
    refine ⟨fun s hs hkey ↦ h m.1 hkey s (.here ?_), fun key hkey s hs ↦ ?_⟩
    · rw [← hs]
      exact hm
    · exact h key hkey s (.member hm hs)
  · intro h key hkey s hs
    cases hs with
    | here hmem => exact (h _ hmem).1 s rfl hkey
    | member hmem hs => exact (h _ hmem).2 key hkey s hs

theorem isRepaired_repairText (s : String) : Base64.IsRepaired (repairText s).toList := by
  rw [repairText, String.toList_ofList]
  exact Base64.isRepaired_repair s.toList

/-- The line about a text that is no encoding. -/
def invalidLine (key : String) : Log.Line :=
  ⟨.warn, s!"Field {key} is not valid Base64URL after repair"⟩

theorem repairText_of_isRepaired {s : String} (hs : Base64.IsRepaired s.toList) :
    repairText s = s := by
  rw [repairText, Base64.repair_of_isRepaired hs, String.ofList_toList]

theorem repairField_of_isRepaired {key s : String} (hkey : key ∈ base64UrlFields)
    (hs : Base64.IsRepaired s.toList) :
    (repairField key s).value = .string s ∧
      ∀ line ∈ (repairField key s).log, ∃ key ∈ base64UrlFields, line = invalidLine key := by
  rw [repairField, repairText_of_isRepaired hs]
  refine ⟨rfl, fun line hline ↦ ⟨key, hkey, ?_⟩⟩
  rw [repairLog, if_pos (repairText_of_isRepaired hs), List.nil_append] at hline
  split at hline
  · exact absurd hline List.not_mem_nil
  · exact List.mem_singleton.mp hline

/-- The first pass encodes the document. -/
theorem isEncoded_repairEncoding (v : Json) : IsEncoded (repairEncoding v).value := by
  induction v using Json.nested_induction with
  | scalar v hv =>
    rw [repairEncoding_of_isScalar hv]
    exact isEncoded_of_isScalar hv
  | array items ih =>
    rw [value_repairEncoding_array, isEncoded_array_iff]
    intro w hw
    obtain ⟨v, hv, rfl⟩ := List.mem_map.mp hw
    exact ih v hv
  | object ms ih =>
    rw [value_repairEncoding_object, isEncoded_object_iff]
    intro m' hm'
    obtain ⟨m, hm, rfl⟩ := List.mem_map.mp hm'
    dsimp only
    rcases repairMember_cases m with ⟨s, -, -, hrepair⟩ | ⟨hother, hrepair⟩
    · rw [hrepair]
      refine ⟨?_, isEncoded_of_isScalar trivial⟩
      rintro t ⟨⟩ -
      exact isRepaired_repairText s
    · rw [hrepair]
      refine ⟨fun t ht hkey ↦ ?_, ih m hm⟩
      exact absurd hkey (hother t (eq_string_of_value_repairEncoding ht))

theorem repairEncoding_of_isEncoded {v : Json} (hv : IsEncoded v) :
    (repairEncoding v).value = v ∧
      ∀ line ∈ (repairEncoding v).log, ∃ key ∈ base64UrlFields, line = invalidLine key := by
  induction v using Json.nested_induction with
  | scalar v hscalar =>
    rw [repairEncoding_of_isScalar hscalar]
    exact ⟨rfl, fun _ hline ↦ absurd hline List.not_mem_nil⟩
  | array items ih =>
    rw [isEncoded_array_iff] at hv
    rw [value_repairEncoding_array, log_repairEncoding_array]
    constructor
    · rw [List.map_congr_left fun w hw ↦ (ih w hw (hv w hw)).1, List.map_id']
    · intro line hline
      obtain ⟨w, hw, hline⟩ := List.mem_flatMap.mp hline
      exact (ih w hw (hv w hw)).2 line hline
  | object ms ih =>
    rw [isEncoded_object_iff] at hv
    have hmember : ∀ m ∈ ms, (repairMember m).value = m.2 ∧
        ∀ line ∈ (repairMember m).log, ∃ key ∈ base64UrlFields, line = invalidLine key := by
      intro m hm
      rcases repairMember_cases m with ⟨s, hs, hkey, hrepair⟩ | ⟨-, hrepair⟩
      · rw [hrepair, hs]
        exact repairField_of_isRepaired hkey ((hv m hm).1 s hs hkey)
      · rw [hrepair]
        exact ih m hm (hv m hm).2
    rw [value_repairEncoding_object, log_repairEncoding_object]
    constructor
    · have hkept : ∀ m ∈ ms, (m.1, (repairMember m).value) = m := by
        intro m hm
        rw [(hmember m hm).1]
      rw [List.map_congr_left hkept, List.map_id']
    · intro line hline
      obtain ⟨m, hm, hline⟩ := List.mem_flatMap.mp hline
      exact (hmember m hm).2 line hline

/-! ## Lists of transports -/

/-- The transports of a document are not an object. -/
def IsListed (v : Json) : Prop :=
  ∀ ms response transports, v = .object ms → ("response", .object response) ∈ ms →
    ("transports", transports) ∈ response → ∀ ts, transports ≠ .object ts

private theorem values_split_perm (ms : List (String × Json)) :
    ((indexedMembers ms).map Prod.snd ++ (namedMembers ms).map Prod.snd).Perm
      (ms.map Prod.snd) := by
  induction ms with
  | nil => simp [indexedMembers, namedMembers]
  | cons m rest ih =>
    cases hindex : index? m.1 with
    | some n => simpa [indexedMembers, namedMembers, hindex] using ih
    | none =>
      simp only [indexedMembers, namedMembers, hindex, List.filterMap_cons, Option.map_none,
        List.filter_cons, Option.isNone_none, if_true, List.map_cons]
      exact List.perm_middle.trans (ih.cons m.2)

theorem listedValues_perm (ms : List (String × Json)) :
    (listedValues ms).Perm (ms.map Prod.snd) :=
  (((List.mergeSort_perm _ _).map _).append_right _).trans (values_split_perm ms)

theorem toList_ne_object (v : Json) (ms : List (String × Json)) : toList v ≠ .object ms := by
  cases v <;> exact nofun

theorem toList_of_ne_object {v : Json} (hv : ∀ ms, v ≠ .object ms) : toList v = v := by
  cases v with
  | object ms => exact absurd rfl (hv ms)
  | null | bool _ | number _ | string _ | array _ => rfl

/-- The second pass puts the transports into a list. -/
theorem isListed_listTransports (v : Json) : IsListed (listTransports v).value := by
  intro ms response transports hv hresponse htransports ts
  obtain ⟨ms, rfl, rfl⟩ := Json.exists_of_modify_eq_object hv
  obtain ⟨⟨key, r⟩, -, hr⟩ := Json.mem_membersModify_iff.mp hresponse
  obtain ⟨rfl, hr⟩ := Prod.mk.inj hr
  rw [if_pos rfl] at hr
  obtain ⟨r, rfl, rfl⟩ := Json.exists_of_modify_eq_object hr.symm
  obtain ⟨⟨key, t⟩, -, ht⟩ := Json.mem_membersModify_iff.mp htransports
  obtain ⟨rfl, ht⟩ := Prod.mk.inj ht
  rw [if_pos rfl] at ht
  rw [ht]
  exact toList_ne_object t ts

private theorem not_isListed_of_hasKeyedTransports {v : Json}
    (h : hasKeyedTransports v = true) : ¬IsListed v := by
  rw [hasKeyedTransports] at h
  split at h
  · rename_i ts hbind
    obtain ⟨w, hw, hts⟩ := Option.bind_eq_some_iff.mp hbind
    obtain ⟨ms, rfl, hmem⟩ := Json.exists_mem_of_get? hw
    obtain ⟨response, rfl, hmem'⟩ := Json.exists_mem_of_get? hts
    exact fun hlisted ↦ hlisted ms response (.object ts) rfl hmem hmem' ts rfl
  · cases h

theorem listTransports_of_isListed {v : Json} (hv : IsListed v) :
    (listTransports v).value = v ∧ (listTransports v).log = [] := by
  constructor
  · refine Json.modify_of_forall fun ms r hms hr ↦ Json.modify_of_forall fun ms' t hms' ht ↦ ?_
    subst hms'
    exact toList_of_ne_object (hv ms ms' t hms hr ht)
  · exact if_neg fun hkeyed ↦ not_isListed_of_hasKeyedTransports hkeyed hv

/-! ## The second pass keeps what the first one did -/

theorem IsEncoded.modify {v : Json} {key : String} {f : Json → Json}
    (hv : IsEncoded v) (hkey : key ∉ base64UrlFields) (hf : ∀ w, IsEncoded w → IsEncoded (f w)) :
    IsEncoded (v.modify key f) := by
  cases v with
  | null | bool _ | number _ | string _ | array _ => exact hv
  | object ms =>
    rw [isEncoded_object_iff] at hv
    rw [Json.modify, isEncoded_object_iff]
    intro m' hm'
    obtain ⟨m, hm, rfl⟩ := Json.mem_membersModify_iff.mp hm'
    obtain ⟨hstring, hinside⟩ := hv m hm
    dsimp only
    split
    · rename_i hchanged
      refine ⟨fun s _ hfield ↦ ?_, hf m.2 hinside⟩
      exact absurd (hchanged ▸ hfield) hkey
    · exact ⟨hstring, hinside⟩

/-- In a list, no name stands over a value any more, and what is inside of it stays there. -/
theorem IsEncoded.toList {v : Json} (hv : IsEncoded v) : IsEncoded (toList v) := by
  cases v with
  | null | bool _ | number _ | string _ | array _ => exact hv
  | object ms =>
    rw [isEncoded_object_iff] at hv
    rw [Credential.toList, isEncoded_array_iff]
    intro w hw
    obtain ⟨m, hm, rfl⟩ := List.mem_map.mp ((listedValues_perm ms).mem_iff.mp hw)
    exact (hv m hm).2

theorem IsEncoded.listTransports {v : Json} (hv : IsEncoded v) :
    IsEncoded (listTransports v).value :=
  hv.modify (by decide) fun _ hresponse ↦ hresponse.modify (by decide) fun _ ↦ IsEncoded.toList

/-! ## The normal form -/

/-- The form that the server expects. -/
structure IsNormal (v : Json) : Prop where
  /-- Strings under one of the seven names are unpadded and URL-safe. -/
  encoded : IsEncoded v
  /-- The transports are not an object. -/
  listed : IsListed v

theorem isNormal_normalize (v : Json) : IsNormal (normalize v).value :=
  ⟨(isEncoded_repairEncoding v).listTransports, isListed_listTransports _⟩

/-- A document in normal form is left as it is. -/
theorem normalize_of_isNormal {v : Json} (hv : IsNormal v) :
    (normalize v).value = v ∧
      ∀ line ∈ (normalize v).log, ∃ key ∈ base64UrlFields, line = invalidLine key := by
  obtain ⟨hvalue, hlog⟩ := repairEncoding_of_isEncoded hv.encoded
  obtain ⟨hvalue', hlog'⟩ := listTransports_of_isListed hv.listed
  constructor
  · rw [normalize, Logged.value_andThen, hvalue, hvalue']
  · rw [normalize, Logged.log_andThen, hvalue, hlog', List.append_nil]
    exact hlog

private theorem not_converted_invalidLine (key : String) :
    ¬"Convert".toList <+: (invalidLine key).text.toList := by
  intro h
  -- the line begins with another word
  have hfield : "Field ".toList <+: (invalidLine key).text.toList := by
    simp only [invalidLine, String.toList_append, List.append_assoc]
    exact List.prefix_append _ _
  rcases List.prefix_or_prefix_of_prefix h hfield with h | h
  · exact absurd h (by decide)
  · exact absurd h (by decide)

/-- **Normalising settles a document**: the result is in normal form, and normalising it again
changes nothing and logs no conversion. -/
theorem normalize_settles (v : Json) :
    IsNormal (normalize v).value ∧
      (normalize (normalize v).value).value = (normalize v).value ∧
      ∀ line ∈ (normalize (normalize v).value).log,
        (∃ key ∈ base64UrlFields, line = invalidLine key) ∧
          ¬"Converted".toList <+: line.text.toList ∧ ¬"Converting".toList <+: line.text.toList := by
  have hnormal := isNormal_normalize v
  obtain ⟨hvalue, hlog⟩ := normalize_of_isNormal hnormal
  refine ⟨hnormal, hvalue, fun line hline ↦ ?_⟩
  obtain ⟨key, hkey, rfl⟩ := hlog line hline
  have hconvert := not_converted_invalidLine key
  refine ⟨⟨key, hkey, rfl⟩, fun h ↦ hconvert ?_, fun h ↦ hconvert ?_⟩
  · exact List.IsPrefix.trans (by decide) h
  · exact List.IsPrefix.trans (by decide) h

end PasskeyCeremony.Credential
