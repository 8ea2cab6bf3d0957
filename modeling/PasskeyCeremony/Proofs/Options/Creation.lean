import PasskeyCeremony.Options.Creation
import PasskeyCeremony.Proofs.Json.Path

/-!
# The repair of creation options

A null attachment is found in one shape only: the selection is an object, and the attachment is
there and null (`hasNullAttachment_iff`). In an ordered bundle the member that is left out stands in
one place, so the repair is said twice: as what becomes of the lists of members, and as what the
paths into the bundle lead to afterwards. After it there is nothing to repair.
-/

namespace PasskeyCeremony.CreationOptions

open Json (Path)

variable {o : CreationOptions} {path : Path}

/-- The path to the attachment. -/
def attachmentPath : Path := [.key selectionKey, .key attachmentKey]

theorem parse?_eq_some_iff {text : List Char} :
    parse? text = some o ↔ Json.parse? text = some o.toJson := by
  rw [parse?]
  split
  · rename_i ms htext
    rw [htext, Option.some_inj, Option.some_inj, toJson, Json.object.injEq]
    constructor
    · rintro rfl
      rfl
    · rintro rfl
      rfl
  · rename_i hnone
    exact iff_of_false nofun (hnone o.members)

/-! ## What is found -/

theorem hasNullAttachment_iff :
    o.hasNullAttachment = true ↔
      ∃ selection, Members.get? o.members selectionKey = some (.object selection) ∧
        Members.get? selection attachmentKey = some .null := by
  rw [hasNullAttachment, get?]
  constructor
  · intro h
    split at h
    · rename_i selection hselection
      exact ⟨selection, hselection, beq_iff_eq.mp h⟩
    · cases h
  · rintro ⟨selection, hselection, hnull⟩
    rw [hselection]
    exact beq_iff_eq.mpr hnull

/-- A null attachment is found where the path to it leads to a null. -/
theorem hasNullAttachment_iff_at? :
    o.hasNullAttachment = true ↔ o.toJson.at? attachmentPath = some .null := by
  rw [hasNullAttachment_iff, attachmentPath, Json.at?, Option.bind_eq_some_iff]
  constructor
  · rintro ⟨selection, hselection, hnull⟩
    refine ⟨.object selection, hselection, ?_⟩
    rw [Json.at?, Json.child?, hnull]
    rfl
  · rintro ⟨v, hv, hnull⟩
    rw [Json.at?, Option.bind_eq_some_iff] at hnull
    obtain ⟨w, hw, hnull⟩ := hnull
    rw [Json.at?, Option.some_inj] at hnull
    cases v with
    | null | bool _ | number _ | string _ | array _ => cases hw
    | object selection => exact ⟨selection, hv, hw.trans (congrArg some hnull)⟩

/-! ## What becomes of it -/

theorem members_dropNullAttachment (hfound : o.hasNullAttachment = true) :
    o.dropNullAttachment.members =
      Members.modify o.members selectionKey withoutAttachment := by
  rw [dropNullAttachment, if_pos hfound]

theorem dropNullAttachment_of_not_found (hfound : o.hasNullAttachment = false) :
    o.dropNullAttachment = o := by
  rw [dropNullAttachment, hfound]
  exact if_neg Bool.false_ne_true

theorem hasNullAttachment_dropNullAttachment (o : CreationOptions) :
    o.dropNullAttachment.hasNullAttachment = false := by
  cases hfound : o.hasNullAttachment with
  | false => rwa [dropNullAttachment_of_not_found hfound]
  | true =>
    obtain ⟨selection, hselection, -⟩ := hasNullAttachment_iff.mp hfound
    simp [hasNullAttachment, get?, members_dropNullAttachment hfound, hselection, withoutAttachment]

/-- Where a null is left out, only the null and the object that it stood in are not as before. -/
theorem at?_erase_null {ms : List (String × Json)} {key : String}
    (hnull : Members.get? ms key = some .null) (hpath : ¬path <+: [.key key]) :
    (Json.object (Members.erase ms key)).at? path = (Json.object ms).at? path := by
  rcases path with _ | ⟨_ | _, path⟩
  · exact absurd List.nil_prefix hpath
  · rename_i k
    rw [Json.at?, Json.at?, Json.child?, Json.child?, Members.get?_erase]
    by_cases hk : k = key
    · rw [if_pos hk, hk, hnull, Option.bind_none, Option.bind_some]
      -- nothing is inside a null
      rcases path with _ | ⟨_ | _, path⟩
      · exact absurd (hk ▸ List.prefix_refl _) hpath
      · rfl
      · rfl
    · rw [if_neg hk]
  · rfl

theorem at?_dropNullAttachment (hpath : ¬path <+: attachmentPath) :
    o.dropNullAttachment.toJson.at? path = o.toJson.at? path := by
  cases hfound : o.hasNullAttachment with
  | false => rw [dropNullAttachment_of_not_found hfound]
  | true =>
    obtain ⟨selection, hselection, hnull⟩ := hasNullAttachment_iff.mp hfound
    rcases path with _ | ⟨_ | _, path⟩
    · exact absurd List.nil_prefix hpath
    · rename_i k
      rw [toJson, toJson, Json.at?, Json.at?, Json.child?, Json.child?,
        members_dropNullAttachment hfound, Members.get?_modify]
      by_cases hk : k = selectionKey
      · rw [attachmentPath, hk, List.cons_prefix_cons, and_iff_right rfl] at hpath
        rw [if_pos hk, hk, hselection, Option.map_some, withoutAttachment, Option.bind_some,
          Option.bind_some]
        exact at?_erase_null hnull hpath
      · rw [if_neg hk]
    · rfl

/-! ## The repair -/

/-- What the repair of a bundle is. -/
structure Repair (o : CreationOptions) : Prop where
  /-- A null attachment is found in one shape only. -/
  found_iff : o.hasNullAttachment = true ↔
    ∃ selection, Members.get? o.members selectionKey = some (.object selection) ∧
      Members.get? selection attachmentKey = some .null
  /-- The member is taken out of the selection, and every other member stands where it stood. -/
  leftOut : o.hasNullAttachment = true → ∃ before first last after,
    o.members = before ++ (selectionKey, .object (first ++ (attachmentKey, .null) :: last)) ::
      after ∧
    o.dropNullAttachment.members =
      before ++ (selectionKey, .object (first ++ last)) :: after
  /-- At any depth, only the attachment and what it stands in are not as they were. -/
  frame : ∀ path, ¬path <+: attachmentPath →
    o.dropNullAttachment.toJson.at? path = o.toJson.at? path
  /-- Where no null is found, the bundle is left as it is. -/
  kept : o.hasNullAttachment = false → o.dropNullAttachment = o
  /-- No null is found a second time. -/
  again : o.dropNullAttachment.hasNullAttachment = false ∧
    o.dropNullAttachment.dropNullAttachment = o.dropNullAttachment

/-- **The repair takes one member out**, or nothing. -/
theorem repair_of_ordered (ho : o.toJson.Ordered) : o.Repair where
  found_iff := hasNullAttachment_iff
  leftOut hfound := by
    obtain ⟨selection, hselection, hnull⟩ := hasNullAttachment_iff.mp hfound
    obtain ⟨before, after, hmembers, -, hmodify⟩ := Members.exists_split ho.1 hselection
    have hordered : (Json.object selection).Ordered :=
      Json.orderedMembers_iff.mp ho.2 (selectionKey, .object selection)
        ((Members.get?_eq_some_iff ho.1).mp hselection)
    obtain ⟨first, last, rfl, herase, -⟩ := Members.exists_split hordered.1 hnull
    refine ⟨before, first, last, after, hmembers, ?_⟩
    rw [members_dropNullAttachment hfound, hmodify, withoutAttachment, herase]
  frame _ hpath := at?_dropNullAttachment hpath
  kept := dropNullAttachment_of_not_found
  again := by
    have hagain := hasNullAttachment_dropNullAttachment o
    exact ⟨hagain, dropNullAttachment_of_not_found hagain⟩

end PasskeyCeremony.CreationOptions
