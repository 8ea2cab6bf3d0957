/-!
# Members kept in key order

The members of an object are a list of pairs in strictly increasing order of their keys. The order
of texts is that of their code points, which is also the order of their bytes in UTF-8. Adding a
member under a key that is there already replaces its value, so of two members with one key in a
document the later one is kept.

The order is a predicate (`Sorted`) and not part of the type, because the values of an object are
themselves documents; everything that builds members here builds them sorted.
-/

namespace PasskeyCeremony.Members

variable {α : Type}

/-- The keys stand in strictly increasing order. -/
def Sorted (ms : List (String × α)) : Prop := (ms.map Prod.fst).Pairwise (· < ·)

instance (ms : List (String × α)) : Decidable (Sorted ms) :=
  inferInstanceAs (Decidable ((ms.map Prod.fst).Pairwise (· < ·)))

/-- The value under a key. -/
def get? (ms : List (String × α)) (key : String) : Option α := ms.lookup key

/-- Add a member, or replace the value under a key that is there. -/
def insert (ms : List (String × α)) (key : String) (value : α) : List (String × α) :=
  match ms with
  | [] => [(key, value)]
  | (k, v) :: rest =>
    if key < k then (key, value) :: (k, v) :: rest
    else if key = k then (key, value) :: rest
    else (k, v) :: insert rest key value

def erase (ms : List (String × α)) (key : String) : List (String × α) :=
  ms.filter fun m ↦ m.1 ≠ key

/-- Change the value under a key, where there is one. -/
def modify (ms : List (String × α)) (key : String) (f : α → α) : List (String × α) :=
  ms.map fun m ↦ if m.1 = key then (m.1, f m.2) else m

/-- The members that a written sequence of members denotes: the last one of each key, sorted. -/
def ofList (ms : List (String × α)) : List (String × α) :=
  ms.foldl (fun acc m ↦ insert acc m.1 m.2) []

theorem mem_keys_insert {ms : List (String × α)} {key k : String} {value : α}
    (h : k ∈ (insert ms key value).map Prod.fst) : k = key ∨ k ∈ ms.map Prod.fst := by
  induction ms with
  | nil => simpa [insert] using h
  | cons m rest ih =>
    obtain ⟨k', v⟩ := m
    simp only [insert] at h
    split at h
    · simpa using h
    · split at h
      · rename_i hk
        subst hk
        simpa using h
      · simp only [List.map_cons, List.mem_cons] at h ⊢
        rcases h with h | h
        · exact Or.inr (Or.inl h)
        · rcases ih h with h | h
          · exact Or.inl h
          · exact Or.inr (Or.inr h)

theorem Sorted.insert {ms : List (String × α)} (h : Sorted ms) (key : String) (value : α) :
    Sorted (insert ms key value) := by
  induction ms with
  | nil => simp [Members.insert, Sorted]
  | cons m rest ih =>
    obtain ⟨k, v⟩ := m
    have hk : ∀ x ∈ rest.map Prod.fst, k < x := (List.pairwise_cons.1 h).1
    have hr : Sorted rest := (List.pairwise_cons.1 h).2
    simp only [Members.insert]
    split
    · rename_i hlt
      refine List.pairwise_cons.2 ⟨?_, h⟩
      intro x hx
      rcases List.mem_cons.1 hx with rfl | hx
      · exact hlt
      · exact String.lt_trans hlt (hk x hx)
    · split
      · rename_i heq
        subst heq
        exact List.pairwise_cons.2 ⟨hk, hr⟩
      · rename_i hge hne
        refine List.pairwise_cons.2 ⟨?_, ih hr⟩
        intro x hx
        rcases mem_keys_insert hx with rfl | hx
        · exact Std.lt_of_le_of_ne (String.not_lt.1 hge) (Ne.symm hne)
        · exact hk x hx

/-- The members of a written sequence are sorted. -/
theorem sorted_ofList (ms : List (String × α)) : Sorted (ofList ms) := by
  suffices ∀ (acc : List (String × α)), Sorted acc →
      Sorted (ms.foldl (fun acc m ↦ Members.insert acc m.1 m.2) acc) from
    this [] List.Pairwise.nil
  induction ms with
  | nil => exact fun _ h ↦ h
  | cons m rest ih => exact fun acc h ↦ ih _ (h.insert m.1 m.2)

theorem Sorted.erase {ms : List (String × α)} (h : Sorted ms) (key : String) :
    Sorted (erase ms key) :=
  List.Pairwise.sublist (List.Sublist.map Prod.fst List.filter_sublist) h

end PasskeyCeremony.Members
