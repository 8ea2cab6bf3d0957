import PasskeyCeremony.Json.Basic

/-!
# What is inside a JSON value

A value is nested through lists of values and through lists of members, so its own recursor carries
a motive for each of these. `Json.nested_induction` is the form in which proofs about documents use
it: what holds of the items of an array holds of the array, what holds of the values of an object
holds of the object, and everything else is a scalar.

`Json.Holds` says that a string stands under a key somewhere in a value. It looks at every member
and not at the first one of a key, so nothing hides behind a member with the same key.
-/

namespace PasskeyCeremony.Json

def IsScalar : Json → Prop
  | array _ | object _ => False
  | _ => True

/-- Induction on a value through the items and the members inside it. -/
@[elab_as_elim]
theorem nested_induction {motive : Json → Prop} (scalar : ∀ v, v.IsScalar → motive v)
    (array : ∀ items, (∀ v ∈ items, motive v) → motive (.array items))
    (object : ∀ ms, (∀ m ∈ ms, motive m.2) → motive (.object ms)) (v : Json) : motive v := by
  refine Json.rec (motive_1 := motive) (motive_2 := fun items ↦ ∀ v ∈ items, motive v)
    (motive_3 := fun ms ↦ ∀ m ∈ ms, motive m.2) (motive_4 := fun m ↦ motive m.2)
    (scalar .null trivial) (fun b ↦ scalar (.bool b) trivial) (fun n ↦ scalar (.number n) trivial)
    (fun s ↦ scalar (.string s) trivial) array object ?_ ?_ ?_ ?_ (fun _ _ hv ↦ hv) v
  · exact fun _ hv ↦ absurd hv List.not_mem_nil
  · exact fun w rest hw hrest ↦ List.forall_mem_cons.mpr ⟨hw, hrest⟩
  · exact fun _ hm ↦ absurd hm List.not_mem_nil
  · exact fun m rest hm hrest ↦ List.forall_mem_cons.mpr ⟨hm, hrest⟩

/-- Somewhere in the value, a string stands under a key. -/
inductive Holds (key s : String) : Json → Prop where
  /-- It is a member of the value itself. -/
  | here {ms : List (String × Json)} (hmem : (key, .string s) ∈ ms) : Holds key s (.object ms)
  /-- It is inside the value of a member. -/
  | member {ms : List (String × Json)} {m : String × Json} (hmem : m ∈ ms)
      (hinside : Holds key s m.2) : Holds key s (.object ms)
  /-- It is inside an item. -/
  | item {items : List Json} {v : Json} (hmem : v ∈ items) (hinside : Holds key s v) :
      Holds key s (.array items)

theorem IsScalar.not_holds {v : Json} (hv : v.IsScalar) (key s : String) : ¬v.Holds key s := by
  rintro (_ | _ | _) <;> exact hv

/-! ## Members under a key -/

theorem exists_mem_of_get? {v w : Json} {key : String} (h : v.get? key = some w) :
    ∃ ms, v = .object ms ∧ (key, w) ∈ ms := by
  cases v with
  | null | bool _ | number _ | string _ | array _ => cases h
  | object ms =>
    obtain ⟨before, after, rfl, -⟩ := List.lookup_eq_some_iff.mp h
    exact ⟨_, rfl, List.mem_append_right before List.mem_cons_self⟩

theorem mem_membersModify_iff {ms : List (String × Json)} {key : String} {f : Json → Json}
    {m' : String × Json} :
    m' ∈ Members.modify ms key f ↔ ∃ m ∈ ms, m' = (m.1, if m.1 = key then f m.2 else m.2) := by
  rw [Members.modify, List.mem_map]
  refine exists_congr fun m ↦ and_congr_right fun _ ↦ ?_
  by_cases hkey : m.1 = key <;> simp [hkey, eq_comm]

theorem exists_of_modify_eq_object {v : Json} {key : String} {f : Json → Json}
    {ms' : List (String × Json)} (h : v.modify key f = .object ms') :
    ∃ ms, v = .object ms ∧ ms' = Members.modify ms key f := by
  cases v with
  | null | bool _ | number _ | string _ | array _ => cases h
  | object ms => exact ⟨ms, rfl, (Json.object.inj h).symm⟩

theorem modify_of_forall {v : Json} {key : String} {f : Json → Json}
    (h : ∀ ms w, v = .object ms → (key, w) ∈ ms → f w = w) : v.modify key f = v := by
  cases v with
  | null | bool _ | number _ | string _ | array _ => rfl
  | object ms =>
    rw [Json.modify, Members.modify]
    refine congrArg Json.object ((List.map_congr_left fun m hm ↦ ?_).trans (List.map_id' ms))
    split
    · rename_i hkey
      rw [h ms m.2 rfl (by rw [← hkey]; exact hm)]
    · rfl

end PasskeyCeremony.Json
