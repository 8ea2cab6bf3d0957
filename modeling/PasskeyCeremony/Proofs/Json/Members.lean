import Mathlib.Data.List.Induction
import Mathlib.Data.List.Nodup
import PasskeyCeremony.Json.Members

/-!
# Looking up members

A key is looked up from the front, so what is found is the first member with the key. In an ordered
object it is the only one (`get?_eq_some_iff`), and then an object is as good as its set of members,
and as good as what its keys lead to (`Sorted.ext`).

Written members go into an object one after the other, and the last one of each key stays
(`get?_ofList`). Where no key is written twice, none of them is lost (`ofList_perm`), and in any
case nothing comes in that was not written (`mem_of_mem_ofList`).
-/

namespace PasskeyCeremony.Members

variable {α : Type} {ms ns : List (String × α)} {m : String × α} {key : String} {a : α}

/-! ## Looking up -/

@[simp] theorem get?_cons (m : String × α) (rest : List (String × α)) (key : String) :
    get? (m :: rest) key = if key = m.1 then some m.2 else get? rest key := by
  rw [get?, List.lookup_cons, ← get?]
  by_cases hkey : key = m.1
  · rw [if_pos hkey, beq_iff_eq.mpr hkey]
  · rw [if_neg hkey, beq_eq_false_iff_ne.mpr hkey]

/-- In an ordered object, a key has the value of any member that it stands in. -/
theorem get?_eq_some_iff (h : Sorted ms) : get? ms key = some a ↔ (key, a) ∈ ms := by
  induction ms with
  | nil => exact iff_of_false nofun List.not_mem_nil
  | cons m rest ih =>
    obtain ⟨hfirst, hrest⟩ := List.pairwise_cons.mp h
    rw [get?_cons, List.mem_cons]
    by_cases hkey : key = m.1
    · subst hkey
      -- further back there are greater keys only
      have hnot : (m.1, a) ∉ rest := fun hmem ↦
        String.lt_irrefl _ (hfirst m.1 (List.mem_map.mpr ⟨_, hmem, rfl⟩))
      rw [if_pos rfl, or_iff_left hnot, Prod.ext_iff]
      simp [eq_comm]
    · have hne : (key, a) ≠ m := fun hm ↦ hkey (congrArg Prod.fst hm)
      rw [if_neg hkey, or_iff_right hne]
      exact ih hrest

theorem get?_map (f : String → α → α) (ms : List (String × α)) (key : String) :
    get? (ms.map fun m ↦ (m.1, f m.1 m.2)) key = (get? ms key).map (f key) := by
  induction ms with
  | nil => rfl
  | cons m rest ih =>
    rw [List.map_cons, get?_cons, get?_cons, ih]
    by_cases hkey : key = m.1
    · rw [if_pos hkey, if_pos hkey, hkey, Option.map_some]
    · rw [if_neg hkey, if_neg hkey]

@[simp] theorem get?_modify (ms : List (String × α)) (key : String) (f : α → α) (k : String) :
    get? (modify ms key f) k = if k = key then (get? ms k).map f else get? ms k := by
  have hmodify : modify ms key f = ms.map fun m ↦ (m.1, if m.1 = key then f m.2 else m.2) :=
    List.map_congr_left fun m _ ↦ by split <;> rfl
  rw [hmodify, get?_map fun k a ↦ if k = key then f a else a]
  by_cases hk : k = key
  · simp only [if_pos hk]
  · simp only [if_neg hk, Option.map_id']

@[simp] theorem get?_insert (ms : List (String × α)) (key : String) (a : α) (k : String) :
    get? (insert ms key a) k = if k = key then some a else get? ms k := by
  induction ms with
  | nil => exact get?_cons _ _ _
  | cons m rest ih =>
    rw [insert]
    split
    · exact get?_cons _ _ _
    · split
      · rename_i hkey
        rw [get?_cons, get?_cons, ← hkey]
        by_cases hk : k = key
        · rw [if_pos hk, if_pos hk]
        · rw [if_neg hk, if_neg hk, if_neg hk]
      · rename_i hne
        rw [get?_cons, ih, get?_cons]
        by_cases hk : k = m.1
        · rw [if_pos hk, if_pos hk, if_neg (hk ▸ Ne.symm hne)]
        · rw [if_neg hk, if_neg hk]

@[simp] theorem get?_erase (ms : List (String × α)) (key k : String) :
    get? (erase ms key) k = if k = key then none else get? ms k := by
  induction ms with
  | nil => exact (ite_self _).symm
  | cons m rest ih =>
    rw [erase, List.filter_cons, ← erase, get?_cons]
    by_cases hm : m.1 = key
    · rw [if_neg (by simpa using hm), ih, hm]
      by_cases hk : k = key
      · rw [if_pos hk, if_pos hk]
      · rw [if_neg hk, if_neg hk, if_neg hk]
    · rw [if_pos (by simpa using hm), get?_cons, ih]
      by_cases hk : k = m.1
      · rw [if_pos hk, if_pos hk, if_neg (hk ▸ hm)]
      · rw [if_neg hk, if_neg hk]

/-! ## Ordered objects -/

theorem Sorted.nodup_keys (h : Sorted ms) : (ms.map Prod.fst).Nodup := by
  refine List.Pairwise.imp ?_ h
  rintro k _ hlt rfl
  exact String.lt_irrefl k hlt

theorem Sorted.eq_of_perm (hms : Sorted ms) (hns : Sorted ns) (h : ms.Perm ns) : ms = ns := by
  refine h.eq_of_pairwise (fun a b _ _ hab hba ↦ ?_) (List.pairwise_map.mp hms)
    (List.pairwise_map.mp hns)
  exact absurd hba (String.lt_asymm hab)

theorem Sorted.ext (hms : Sorted ms) (hns : Sorted ns) (h : ∀ key, get? ms key = get? ns key) :
    ms = ns := by
  refine hms.eq_of_perm hns ?_
  rw [List.perm_ext_iff_of_nodup (List.Nodup.of_map _ hms.nodup_keys)
    (List.Nodup.of_map _ hns.nodup_keys)]
  intro (key, a)
  rw [← get?_eq_some_iff hms, h key, get?_eq_some_iff hns]

theorem erase_eq_self (h : key ∉ ms.map Prod.fst) : erase ms key = ms := by
  refine List.filter_eq_self.mpr fun m hm ↦ decide_eq_true ?_
  rintro rfl
  exact h (List.mem_map_of_mem hm)

theorem modify_eq_self (h : key ∉ ms.map Prod.fst) (f : α → α) : modify ms key f = ms := by
  refine (List.map_congr_left fun m hm ↦ if_neg ?_).trans (List.map_id' ms)
  rintro rfl
  exact h (List.mem_map_of_mem hm)

/-- In an ordered object a member stands in one place, so leaving it out or changing it happens
there. -/
theorem exists_split (hms : Sorted ms) (h : get? ms key = some a) :
    ∃ before after, ms = before ++ (key, a) :: after ∧ erase ms key = before ++ after ∧
      ∀ f, modify ms key f = before ++ (key, f a) :: after := by
  obtain ⟨before, after, rfl⟩ := List.append_of_mem ((get?_eq_some_iff hms).mp h)
  refine ⟨before, after, rfl, ?_⟩
  have hkeys := hms.nodup_keys
  rw [List.map_append, List.map_cons, List.nodup_middle, List.nodup_cons, List.mem_append,
    not_or] at hkeys
  obtain ⟨⟨hbefore, hafter⟩, -⟩ := hkeys
  constructor
  · rw [erase, List.filter_append, List.filter_cons_of_neg (by simp), ← erase, ← erase,
      erase_eq_self hbefore, erase_eq_self hafter]
  · intro f
    rw [modify, List.map_append, List.map_cons, if_pos rfl, ← modify, ← modify,
      modify_eq_self hbefore, modify_eq_self hafter]

/-! ## Writing one after the other -/

theorem ofList_concat (ms : List (String × α)) (m : String × α) :
    ofList (ms ++ [m]) = insert (ofList ms) m.1 m.2 := by
  rw [ofList, List.foldl_append, ← ofList, List.foldl_cons, List.foldl_nil]

/-- Of the members that are written under a key, the last one stays. -/
theorem get?_ofList (ms : List (String × α)) (key : String) :
    get? (ofList ms) key = ((ms.filter fun m ↦ m.1 = key).getLast?).map Prod.snd := by
  induction ms using List.reverseRecOn with
  | nil => rfl
  | append_singleton ms m ih =>
    rw [ofList_concat, get?_insert, ih, List.filter_append]
    by_cases hkey : m.1 = key
    · rw [if_pos hkey.symm, List.filter_cons_of_pos (by simpa using hkey), List.filter_nil,
        List.getLast?_concat, Option.map_some]
    · rw [if_neg (Ne.symm hkey), List.filter_cons_of_neg (by simpa using hkey), List.filter_nil,
        List.append_nil]

theorem ofList_filter_ne (ms : List (String × α)) (key : String) :
    ofList (ms.filter fun m ↦ m.1 ≠ key) = erase (ofList ms) key := by
  refine (sorted_ofList _).ext ((sorted_ofList ms).erase key) fun k ↦ ?_
  rw [get?_ofList, get?_erase, get?_ofList, List.filter_filter]
  by_cases hk : k = key
  · rw [if_pos hk, List.filter_eq_nil_iff.mpr (by simp [hk])]
    rfl
  · rw [if_neg hk]
    congr 3
    funext m
    by_cases hm : m.1 = k
    · simp [hm, hk]
    · simp [hm]

theorem insert_perm (h : key ∉ ms.map Prod.fst) (a : α) :
    (insert ms key a).Perm ((key, a) :: ms) := by
  induction ms with
  | nil => exact .refl _
  | cons m rest ih =>
    rw [List.map_cons, List.mem_cons, not_or] at h
    rw [insert]
    split
    · exact .refl _
    · rw [if_neg h.1]
      exact ((ih h.2).cons m).trans (.swap _ _ _)

theorem ofList_perm (h : (ms.map Prod.fst).Nodup) : (ofList ms).Perm ms := by
  induction ms using List.reverseRecOn with
  | nil => exact .refl _
  | append_singleton ms m ih =>
    rw [List.map_append, List.nodup_append] at h
    obtain ⟨hnodup, -, hdisjoint⟩ := h
    have ih := ih hnodup
    have hfresh : m.1 ∉ (ofList ms).map Prod.fst := fun hmem ↦
      hdisjoint _ ((ih.map Prod.fst).mem_iff.mp hmem) _ (List.mem_singleton_self _) rfl
    rw [ofList_concat]
    exact ((insert_perm hfresh m.2).trans (ih.cons m)).trans (List.perm_append_singleton m ms).symm

theorem ofList_of_sorted (h : Sorted ms) : ofList ms = ms :=
  (sorted_ofList ms).eq_of_perm h (ofList_perm h.nodup_keys)

theorem mem_of_mem_insert (h : m ∈ insert ms key a) : m = (key, a) ∨ m ∈ ms := by
  induction ms with
  | nil => exact Or.inl (List.mem_singleton.mp h)
  | cons first rest ih =>
    rw [insert] at h
    split at h
    · exact List.mem_cons.mp h
    · split at h
      · exact (List.mem_cons.mp h).imp_right (List.mem_cons_of_mem _)
      · rcases List.mem_cons.mp h with rfl | h
        · exact Or.inr List.mem_cons_self
        · exact (ih h).imp_right (List.mem_cons_of_mem _)

theorem mem_of_mem_ofList (h : m ∈ ofList ms) : m ∈ ms := by
  induction ms using List.reverseRecOn with
  | nil => exact absurd h List.not_mem_nil
  | append_singleton ms last ih =>
    rw [ofList_concat] at h
    rcases mem_of_mem_insert h with rfl | h
    · exact List.mem_append_right ms (List.mem_singleton_self _)
    · exact List.mem_append_left _ (ih h)

end PasskeyCeremony.Members
