import PasskeyCeremony.Proofs.Json.Object
import PasskeyCeremony.Proofs.Json.Path

/-!
# Documents are ordered

The order of members is no part of the type of a document. It comes from the reader: every object is
built by inserting its members one after the other, and the values of the members are documents that
were read before. So whatever text a document was read from, the members of every object in it are
sorted (`ordered_of_parse?`), and what is proved of ordered documents holds of all that are read.
-/

namespace PasskeyCeremony.Json

namespace Reader

variable {value : List Char → Option (Json × List Char)} {n depth : Nat} {cs rest : List Char}
  {v : Json} {items : List Json} {m : String × Json} {ms : List (String × Json)}

section

variable (hvalue : ∀ cs v rest, value cs = some (v, rest) → v.Ordered)

include hvalue

theorem ordered_of_items? (h : items? value n cs = some (items, rest)) :
    ∀ v ∈ items, v.Ordered := by
  induction n generalizing cs items rest with
  | zero => cases h
  | succ n ih =>
    simp only [items?, Option.bind_eq_bind, Option.bind_eq_some_iff] at h
    obtain ⟨⟨v, after⟩, hv, h⟩ := h
    have hfirst := hvalue _ _ _ hv
    dsimp only at h
    split at h
    · obtain ⟨⟨vs, last⟩, hvs, h⟩ := Option.bind_eq_some_iff.mp h
      cases h
      exact List.forall_mem_cons.mpr ⟨hfirst, ih hvs⟩
    · cases h
      exact List.forall_mem_singleton.mpr hfirst
    · cases h

theorem ordered_of_arrayRest? (h : arrayRest? value cs = some (items, rest)) :
    ∀ v ∈ items, v.Ordered := by
  rw [arrayRest?] at h
  split at h
  · cases h
    exact fun _ hv ↦ absurd hv List.not_mem_nil
  · exact ordered_of_items? hvalue h

theorem ordered_of_member? (h : member? value cs = some (m, rest)) : m.2.Ordered := by
  simp only [member?, Option.bind_eq_bind, Option.bind_eq_some_iff] at h
  obtain ⟨⟨key, after⟩, -, h⟩ := h
  dsimp only at h
  split at h
  · obtain ⟨⟨v, last⟩, hv, h⟩ := Option.bind_eq_some_iff.mp h
    cases h
    exact hvalue _ _ _ hv
  · cases h

theorem ordered_of_members? (h : members? value n cs = some (ms, rest)) :
    ∀ m ∈ ms, m.2.Ordered := by
  induction n generalizing cs ms rest with
  | zero => cases h
  | succ n ih =>
    simp only [members?, Option.bind_eq_bind, Option.bind_eq_some_iff] at h
    obtain ⟨⟨m, after⟩, hm, h⟩ := h
    have hfirst := ordered_of_member? hvalue hm
    dsimp only at h
    split at h
    · obtain ⟨⟨ms, last⟩, hms, h⟩ := Option.bind_eq_some_iff.mp h
      cases h
      exact List.forall_mem_cons.mpr ⟨hfirst, ih hms⟩
    · cases h
      exact List.forall_mem_singleton.mpr hfirst
    · cases h

theorem ordered_of_objectRest? (h : objectRest? value cs = some (ms, rest)) :
    ∀ m ∈ ms, m.2.Ordered := by
  rw [objectRest?] at h
  split at h
  · cases h
    exact fun _ hm ↦ absurd hm List.not_mem_nil
  · exact ordered_of_members? hvalue h

end

private theorem ordered_of_inside
    (hinside : ∀ d, depth = d + 1 → ∀ cs v rest, value? d cs = some (v, rest) → v.Ordered)
    (h : value? depth cs = some (v, rest)) : v.Ordered := by
  rw [value?.eq_def] at h
  dsimp only at h
  -- words, texts and numbers hold no values; arrays and objects hold those read one level down
  split at h
  · cases h
    trivial
  · cases h
    trivial
  · cases h
    trivial
  · obtain ⟨r, -, h⟩ := Option.map_eq_some_iff.mp h
    cases h
    trivial
  · cases depth with
    | zero => cases h
    | succ d =>
      obtain ⟨r, hr, h⟩ := Option.map_eq_some_iff.mp h
      cases h
      exact orderedItems_iff.mpr (ordered_of_arrayRest? (hinside d rfl) hr)
  · cases depth with
    | zero => cases h
    | succ d =>
      obtain ⟨r, hr, h⟩ := Option.map_eq_some_iff.mp h
      cases h
      have hmembers := ordered_of_objectRest? (hinside d rfl) hr
      exact ⟨Members.sorted_ofList _, orderedMembers_iff.mpr fun m hm ↦
        hmembers m (Members.mem_of_mem_ofList hm)⟩
  · obtain ⟨r, -, h⟩ := Option.map_eq_some_iff.mp h
    cases h
    trivial

theorem ordered_of_value? (h : value? depth cs = some (v, rest)) : v.Ordered := by
  induction depth generalizing cs v rest with
  | zero => exact ordered_of_inside (fun d hd ↦ absurd hd (Nat.succ_ne_zero d).symm) h
  | succ d ih =>
    refine ordered_of_inside (fun e he _ _ _ h ↦ ?_) h
    cases he
    exact ih h

end Reader

/-- **The reader orders documents**: whatever a text holds, the members of every object in it are
sorted by their keys. -/
theorem ordered_of_parse? {text : List Char} {v : Json} (h : parse? text = some v) :
    v.Ordered := by
  obtain ⟨rest, hv, -⟩ := parse?_eq_some_iff.mp h
  exact Reader.ordered_of_value? hv

end PasskeyCeremony.Json
