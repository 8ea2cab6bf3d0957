import PasskeyCeremony.Proofs.Credential.Walk

/-!
# What normalising leaves alone

The first pass keeps every path: there is a value at it afterwards exactly if there was one before,
and it is the same one unless it is the text of a field or has something inside it
(`rel_at?_repairEncoding`). Objects keep their keys and arrays their length, so what is inside a
value is found at the same paths again, and the statement about all paths says what happens to it.

The second pass changes one value at most, the transports (`value_listTransports_eq_modify`). It
takes the values out of an object, and they are the values that the first pass has left there.
-/

namespace PasskeyCeremony

open Json (Path Step)

/-! ## Changing one member of an ordered document -/

namespace Json

variable {v w : Json} {key : String} {f g : Json → Json}

theorem Ordered.child? {step : Step} (hv : v.Ordered) (h : v.child? step = some w) : w.Ordered :=
  hv.child ((mem_children_iff hv).mpr h)

theorem child?_modify (v : Json) (key : String) (f : Json → Json) :
    (v.modify key f).child? (.key key) = (v.child? (.key key)).map f := by
  cases v with
  | null | bool _ | number _ | string _ | array _ => rfl
  | object ms =>
    simp [Json.modify, Json.child?]

theorem modify_congr (hv : v.Ordered) (h : ∀ w, v.child? (.key key) = some w → f w = g w) :
    v.modify key f = v.modify key g := by
  cases v with
  | null | bool _ | number _ | string _ | array _ => rfl
  | object ms =>
    rw [modify, modify, Members.modify, Members.modify]
    refine congrArg Json.object (List.map_congr_left fun m hm ↦ ?_)
    by_cases hkey : m.1 = key
    · rw [if_pos hkey, if_pos hkey, h m.2 (hkey ▸ child?_key hv hm)]
    · rw [if_neg hkey, if_neg hkey]

end Json

namespace Credential

/-! ## The first pass -/

/-- What the repair makes of a value that stands in a field, or in none. -/
inductive Repaired (field : Option String) : Json → Json → Prop where
  /-- The text of a field is repaired. -/
  | field {s : String} (h : field.isSome) : Repaired field (.string s) (.string (repairText s))
  /-- Any other text is kept. -/
  | text {s : String} (h : field = none) : Repaired field (.string s) (.string s)
  | null : Repaired field .null .null
  | bool (b : Bool) : Repaired field (.bool b) (.bool b)
  | number (n : Json.Number) : Repaired field (.number n) (.number n)
  /-- An array keeps its length. -/
  | array {items items' : List Json} (h : items'.length = items.length) :
    Repaired field (.array items) (.array items')
  /-- An object keeps its keys. -/
  | object {ms ms' : List (String × Json)} (h : ms'.map Prod.fst = ms.map Prod.fst) :
    Repaired field (.object ms) (.object ms')

theorem repaired_repairEncoding {field : Option String} {v : Json}
    (h : ∀ s, v = .string s → field = none) : Repaired field v (repairEncoding v).value := by
  cases v with
  | null => exact .null
  | bool b => exact .bool b
  | number n => exact .number n
  | string s => exact .text (h s rfl)
  | array items =>
    rw [value_repairEncoding_array]
    exact .array (List.length_map _)
  | object ms =>
    rw [value_repairEncoding_object]
    exact .object List.map_map

/-- **The repair keeps every path**, and what it makes of the value there depends on the value and
on the field that the path leads to. -/
theorem rel_at?_repairEncoding (v : Json) (path : Path) :
    Option.Rel (Repaired (fieldOf? path)) (v.at? path) ((repairEncoding v).value.at? path) := by
  induction path generalizing v with
  | nil => exact .some (repaired_repairEncoding fun _ _ ↦ rfl)
  | cons step path ih =>
    rw [Json.at?, Json.at?, child?_repairEncoding]
    cases hchild : v.child? step with
    | none => exact .none
    | some w =>
      rw [Option.map_some, Option.bind_some, Option.bind_some]
      rcases repairChild_cases (step, w) with ⟨key, s, hc, hfield, hrepair⟩ | ⟨hother, hrepair⟩
      · obtain ⟨rfl, rfl⟩ := Prod.mk.inj hc
        rw [hrepair]
        -- there is nothing inside a text, so it is where the path ends
        cases path with
        | nil => exact .some (.field (Option.isSome_of_eq_some hfield))
        | cons _ _ => exact .none
      · rw [hrepair]
        cases path with
        | nil => exact .some (repaired_repairEncoding hother)
        | cons next path =>
          rw [fieldOf?_cons (List.cons_ne_nil next path)]
          exact ih w

theorem ordered_repairEncoding {v : Json} (hv : v.Ordered) : (repairEncoding v).value.Ordered := by
  induction v using Json.child_induction with
  | step v ih =>
    rw [Json.ordered_iff, children_repairEncoding, List.pairwise_map, List.forall_mem_map]
    refine ⟨(Json.ordered_iff.mp hv).1, fun c hc ↦ ?_⟩
    rcases repairChild_cases c with ⟨key, s, -, -, hrepair⟩ | ⟨-, hrepair⟩
    · rw [hrepair]
      trivial
    · rw [hrepair]
      exact ih c hc (hv.child hc)

/-! ## The second pass -/

def transportsPath : Path := [.key "response", .key "transports"]

/-- In an ordered document, the second pass replaces the transports and nothing else. -/
theorem value_listTransports_eq_modify {v : Json} {ts : List (String × Json)} (hv : v.Ordered)
    (h : v.at? transportsPath = some (.object ts)) :
    (listTransports v).value = v.modify "response" fun response ↦
      response.modify "transports" fun _ ↦ .array (listedValues ts) := by
  refine Json.modify_congr hv fun response hresponse ↦ ?_
  refine Json.modify_congr (hv.child? hresponse) fun transports htransports ↦ ?_
  rw [transportsPath, Json.at?, hresponse, Option.bind_some, Json.at?, htransports,
    Option.bind_some, Json.at?, Option.some_inj] at h
  rw [h, toList]

theorem isListed_of_at? {v : Json} (hv : v.Ordered)
    (h : ∀ ts, v.at? transportsPath ≠ some (.object ts)) : IsListed v := by
  rintro ms response transports rfl hresponse htransports ts rfl
  have hr := Json.child?_key hv hresponse
  have ht := Json.child?_key (hv.child? hr) htransports
  refine h ts ?_
  rw [transportsPath, Json.at?, hr, Option.bind_some, Json.at?, ht, Option.bind_some, Json.at?]

/-! ## Both passes -/

/-- The repair leaves objects where they were and makes no new ones. -/
theorem at?_repairEncoding_object_iff {v : Json} {path : Path} :
    (∃ ms', (repairEncoding v).value.at? path = some (.object ms')) ↔
      ∃ ms, v.at? path = some (.object ms) := by
  have hrel := rel_at?_repairEncoding v path
  generalize v.at? path = u, (repairEncoding v).value.at? path = w at hrel
  cases hrel with
  | none => exact iff_of_false nofun nofun
  | some hrepaired => cases hrepaired <;> simp

/-- **Normalising touches nothing else.** In an ordered document, every path leads to a value after
the first pass exactly if it did before; the value is the same unless it is an object, which keeps
its keys, an array, which keeps its length, or a text that the path reaches by one of the seven
names, which is repaired. The second pass replaces the object at `response.transports`, if there is
one, by an array of the values that the first pass has left in it, and does nothing otherwise. -/
theorem normalize_frame {v : Json} (hv : v.Ordered) :
    (∀ path,
        Option.Rel (Repaired (fieldOf? path)) (v.at? path) ((repairEncoding v).value.at? path)) ∧
      (∀ ts, v.at? transportsPath = some (.object ts) →
        ∃ ts' values, (repairEncoding v).value.at? transportsPath = some (.object ts') ∧
          values.Perm (ts'.map Prod.snd) ∧
          (normalize v).value = (repairEncoding v).value.modify "response" fun response ↦
            response.modify "transports" fun _ ↦ .array values) ∧
      ((∀ ts, v.at? transportsPath ≠ some (.object ts)) →
        (normalize v).value = (repairEncoding v).value) := by
  have hordered := ordered_repairEncoding hv
  refine ⟨rel_at?_repairEncoding v, fun ts hts ↦ ?_, fun hno ↦ ?_⟩
  · obtain ⟨ts', hts'⟩ := at?_repairEncoding_object_iff.mpr ⟨ts, hts⟩
    exact ⟨ts', listedValues ts', hts', listedValues_perm ts',
      value_listTransports_eq_modify hordered hts'⟩
  · refine (listTransports_of_isListed (isListed_of_at? hordered fun ts' hts' ↦ ?_)).1
    obtain ⟨ts, hts⟩ := at?_repairEncoding_object_iff.mp ⟨ts', hts'⟩
    exact hno ts hts

/-- Under a field name an object is entered and a list of texts is kept; the transports lose their
keys, one of which is a field name. -/
theorem normalize_frame_transports :
    let v : Json := .object [("id", .object [("id", .string "a+b=")]), ("rawId", .array
      [.string "a+b="]), ("response", .object [("transports", .object [("1", .string "usb"),
      ("id", .string "a+b=")])])]
    v.Ordered ∧ v.at? transportsPath = some (.object [("1", .string "usb"),
        ("id", .string "a+b=")]) ∧
      (∃ ts' values, (repairEncoding v).value.at? transportsPath = some (.object ts') ∧
        values.Perm (ts'.map Prod.snd) ∧
        (normalize v).value = (repairEncoding v).value.modify "response" fun response ↦
          response.modify "transports" fun _ ↦ .array values) ∧
      (normalize v).value = .object [("id", .object [("id", .string "a-b")]), ("rawId", .array
        [.string "a+b="]), ("response", .object [("transports", .array [.string "usb",
        .string "a-b"])])] := by
  intro v
  have hv : v.Ordered := by
    simp only [v, Json.Ordered, Json.OrderedMembers, Json.OrderedItems]
    decide
  have hts : v.at? transportsPath = some (.object [("1", .string "usb"),
      ("id", .string "a+b=")]) := by decide
  exact ⟨hv, hts, (normalize_frame hv).2.1 _ hts, by decide +kernel⟩

end Credential

end PasskeyCeremony
