import PasskeyCeremony.Json.Reader

/-!
# Objects as they are written

A text is read as a document, whose objects are ordered and hold each key once, or as the members of
an object in the order and as often as they are written. The two readers take the same texts for
objects, and the document is what the written members denote (`parse?_eq_object_iff`).
-/

namespace PasskeyCeremony.Json

variable {depth : Nat} {cs rest text : List Char} {ms written : List (String × Json)}

/-- An object is read from its opening brace on. -/
theorem Reader.value?_eq_object_iff :
    value? (depth + 1) cs = some (.object ms, rest) ↔
      ∃ inside written, skipBlanks cs = '\x7b' :: inside ∧
        objectRest? (value? depth) inside = some (written, rest) ∧ ms = Members.ofList written := by
  rw [value?.eq_def]
  dsimp only
  constructor
  · intro h
    split at h
    · cases h
    · cases h
    · cases h
    · obtain ⟨r, -, h⟩ := Option.map_eq_some_iff.mp h
      cases h
    · obtain ⟨r, -, h⟩ := Option.map_eq_some_iff.mp h
      cases h
    · rename_i inside hcs
      obtain ⟨⟨written, after⟩, hr, h⟩ := Option.map_eq_some_iff.mp h
      cases h
      exact ⟨inside, written, hcs, hr, rfl⟩
    · obtain ⟨r, -, h⟩ := Option.map_eq_some_iff.mp h
      cases h
  · rintro ⟨inside, written, hcs, hr, rfl⟩
    rw [hcs]
    exact Option.map_eq_some_iff.mpr ⟨_, hr, rfl⟩

theorem parse?_eq_some_iff {v : Json} :
    parse? text = some v ↔
      ∃ rest, Reader.value? Reader.maxDepth text = some (v, rest) ∧
        (Reader.skipBlanks rest).isEmpty = true := by
  rw [parse?]
  cases Reader.value? Reader.maxDepth text with
  | none => exact iff_of_false nofun nofun
  | some r => simpa [Prod.ext_iff, and_assoc] using and_comm

theorem parseMembers?_eq_some_iff :
    parseMembers? text = some written ↔
      ∃ inside rest, Reader.skipBlanks text = '\x7b' :: inside ∧
        Reader.objectRest? (Reader.value? (Reader.maxDepth - 1)) inside = some (written, rest) ∧
        (Reader.skipBlanks rest).isEmpty = true := by
  rw [parseMembers?]
  split
  · rename_i inside hcs
    rw [hcs]
    simp only [List.cons.injEq, true_and, exists_and_left, exists_eq_left']
    cases Reader.objectRest? (Reader.value? (Reader.maxDepth - 1)) inside with
    | none => exact iff_of_false nofun nofun
    | some r => simpa [Prod.ext_iff, and_assoc] using and_comm
  · rename_i hcs
    refine iff_of_false nofun ?_
    rintro ⟨inside, _, hinside, -⟩
    exact hcs inside hinside

/-- **A text holds an object** when members are written in it, and the object is what they
denote. -/
theorem parse?_eq_object_iff :
    parse? text = some (.object ms) ↔
      ∃ written, parseMembers? text = some written ∧ ms = Members.ofList written := by
  have hdepth : Reader.maxDepth = Reader.maxDepth - 1 + 1 := rfl
  rw [parse?_eq_some_iff, hdepth]
  simp only [Reader.value?_eq_object_iff, parseMembers?_eq_some_iff]
  constructor
  · rintro ⟨rest, ⟨inside, written, hcs, hr, rfl⟩, hrest⟩
    exact ⟨written, ⟨inside, rest, hcs, hr, hrest⟩, rfl⟩
  · rintro ⟨written, ⟨inside, rest, hcs, hr, hrest⟩, rfl⟩
    exact ⟨rest, ⟨inside, written, hcs, hr, rfl⟩, hrest⟩

end PasskeyCeremony.Json
