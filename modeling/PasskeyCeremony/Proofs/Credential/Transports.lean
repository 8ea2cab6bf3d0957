import PasskeyCeremony.Proofs.Credential.Frame
import PasskeyCeremony.Proofs.Text.Decimal

/-!
# Transports put back into a list

The values of an object are listed in the order in which their keys read: those that read as an
index first, by the index, then the others; keys that read alike stay in the order of the object.
`Arranges` says this of a list of members, and an object has one such list (`Arranges.unique`).

In particular a list that was stored under its indices comes back (`Arranges.values_keyedByIndex`).
The object holds its members by the texts of the keys, where ten comes before two; but a decimal
numeral reads as its number, so that the list as it was is an arrangement of the object too.
-/

namespace PasskeyCeremony

namespace Credential

variable {ms arranged : List (String × Json)} {items : List Json}

/-! ## Arrangements -/

/-- Where the key of the second member reads as an index, so does that of the first one, and as no
greater one. -/
def Precedes (a b : String × Json) : Prop := ∀ n ∈ index? b.1, ∃ m ∈ index? a.1, m ≤ n

/-- The members of an object in the order in which their keys read. -/
structure Arranges (ms arranged : List (String × Json)) : Prop where
  /-- Each member is there once. -/
  perm : arranged.Perm ms
  /-- The indices come first, and none comes before a smaller one. -/
  ordered : arranged.Pairwise Precedes
  /-- Members whose keys read alike, or as no index, are in the order of the object. -/
  stable : ∀ i, (arranged.filter fun m ↦ index? m.1 = i) = ms.filter fun m ↦ index? m.1 = i

/-- The key of the one member reads as no greater index than that of the other. -/
def indexLe (a b : String × Json) : Bool := (index? a.1).getD 0 ≤ (index? b.1).getD 0

/-- The members whose key reads as an index, sorted by it, and then the others. -/
def arrange (ms : List (String × Json)) : List (String × Json) :=
  (ms.filter fun m ↦ (index? m.1).isSome).mergeSort indexLe ++ namedMembers ms

theorem indexedMembers_eq_map (ms : List (String × Json)) :
    indexedMembers ms =
      (ms.filter fun m ↦ (index? m.1).isSome).map fun m ↦ ((index? m.1).getD 0, m.2) := by
  induction ms with
  | nil => rfl
  | cons m rest ih =>
    rw [indexedMembers, List.filterMap_cons, ← indexedMembers, ih]
    cases hindex : index? m.1 <;> simp [hindex]

theorem listedValues_eq_map (ms : List (String × Json)) :
    listedValues ms = (arrange ms).map Prod.snd := by
  have hsort := List.map_mergeSort (l := ms.filter fun m ↦ (index? m.1).isSome) (r := indexLe)
    (s := fun a b ↦ a.1 ≤ b.1) (f := fun m ↦ ((index? m.1).getD 0, m.2)) fun _ _ _ _ ↦ rfl
  rw [listedValues, indexedMembers_eq_map, ← hsort, List.map_map, arrange, List.map_append]
  rfl

/-! ## The values are arranged -/

theorem indexLe_iff {a b : String × Json} :
    indexLe a b = true ↔ (index? a.1).getD 0 ≤ (index? b.1).getD 0 := decide_eq_true_iff

theorem indexLe_trans (a b c : String × Json) (hab : indexLe a b = true)
    (hbc : indexLe b c = true) : indexLe a c = true :=
  indexLe_iff.mpr (Nat.le_trans (indexLe_iff.mp hab) (indexLe_iff.mp hbc))

theorem indexLe_total (a b : String × Json) : (indexLe a b || indexLe b a) = true := by
  rw [Bool.or_eq_true, indexLe_iff, indexLe_iff]
  exact Nat.le_total _ _

theorem arrange_perm (ms : List (String × Json)) : (arrange ms).Perm ms := by
  have hnamed : namedMembers ms = ms.filter fun m ↦ !(index? m.1).isSome :=
    List.filter_congr fun m _ ↦ (Option.not_isSome _).symm
  rw [arrange, hnamed]
  exact ((List.mergeSort_perm _ _).append_right _).trans (List.filter_append_perm _ ms)

theorem pairwise_arrange (ms : List (String × Json)) : (arrange ms).Pairwise Precedes := by
  have hnamed {a b : String × Json} (hb : b ∈ namedMembers ms) : Precedes a b := by
    intro n hn
    rw [Option.isNone_iff_eq_none.mp (List.mem_filter.mp hb).2] at hn
    cases hn
  refine List.pairwise_append.mpr ⟨?_, ?_, fun a _ b hb ↦ hnamed hb⟩
  · refine (List.pairwise_mergeSort indexLe_trans indexLe_total _).imp_of_mem ?_
    intro a b ha _ hab n hn
    obtain ⟨m, hm⟩ :=
      Option.isSome_iff_exists.mp (List.mem_filter.mp (List.mem_mergeSort.mp ha)).2
    rw [indexLe_iff, hm, Option.mem_def.mp hn] at hab
    exact ⟨m, hm, hab⟩
  · exact List.pairwise_of_forall_mem_list fun a _ b hb ↦ hnamed hb

theorem filter_mergeSort {α : Type} {le : α → α → Bool} {p : α → Bool}
    (htrans : ∀ a b c, le a b = true → le b c = true → le a c = true)
    (htotal : ∀ a b, (le a b || le b a) = true)
    (hp : ∀ a b, p a = true → p b = true → le a b = true) (l : List α) :
    (l.mergeSort le).filter p = l.filter p := by
  have hordered : (l.filter p).Pairwise fun a b ↦ le a b = true :=
    List.pairwise_of_forall_mem_list fun a ha b hb ↦
      hp a b (List.mem_filter.mp ha).2 (List.mem_filter.mp hb).2
  have hsub := (List.sublist_mergeSort htrans htotal hordered List.filter_sublist).filter p
  simp only [List.filter_filter, Bool.and_self] at hsub
  exact (hsub.eq_of_length ((List.mergeSort_perm l le).filter p).length_eq.symm).symm

theorem filter_arrange (ms : List (String × Json)) (i : Option Nat) :
    ((arrange ms).filter fun m ↦ index? m.1 = i) = ms.filter fun m ↦ index? m.1 = i := by
  have halike (a b : String × Json) (ha : decide (index? a.1 = i) = true)
      (hb : decide (index? b.1 = i) = true) : indexLe a b = true := by
    have hindex : index? a.1 = index? b.1 :=
      (of_decide_eq_true ha).trans (of_decide_eq_true hb).symm
    exact indexLe_iff.mpr (Nat.le_of_eq (by rw [hindex]))
  rw [arrange, List.filter_append, filter_mergeSort indexLe_trans indexLe_total halike,
    namedMembers, List.filter_filter, List.filter_filter]
  -- the members whose keys read as `i` stand on one side only
  cases i with
  | none =>
    have hindexed : ∀ m ∈ ms, ¬(decide (index? m.1 = none) && (index? m.1).isSome) = true := by
      intro m _
      cases index? m.1 <;> simp
    have hnamed : ∀ m ∈ ms,
        (decide (index? m.1 = none) && (index? m.1).isNone) = decide (index? m.1 = none) := by
      intro m _
      cases index? m.1 <;> simp
    rw [List.filter_eq_nil_iff.mpr hindexed, List.filter_congr hnamed, List.nil_append]
  | some n =>
    have hindexed : ∀ m ∈ ms,
        (decide (index? m.1 = some n) && (index? m.1).isSome) = decide (index? m.1 = some n) := by
      intro m _
      cases index? m.1 <;> simp
    have hnamed : ∀ m ∈ ms, ¬(decide (index? m.1 = some n) && (index? m.1).isNone) = true := by
      intro m _
      cases index? m.1 <;> simp
    rw [List.filter_eq_nil_iff.mpr hnamed, List.filter_congr hindexed, List.append_nil]

theorem arranges_arrange (ms : List (String × Json)) : Arranges ms (arrange ms) :=
  ⟨arrange_perm ms, pairwise_arrange ms, filter_arrange ms⟩

/-! ## There is one arrangement -/

private theorem mem_index?_of_precedes {a b : String × Json} {n : Nat} (hab : Precedes a b)
    (hba : Precedes b a) (hn : n ∈ index? a.1) : n ∈ index? b.1 := by
  obtain ⟨m, hm, hmn⟩ := hba n hn
  obtain ⟨n', hn', hnm⟩ := hab m hm
  cases Option.mem_unique hn hn'
  rwa [Nat.le_antisymm hnm hmn]

theorem index?_eq_of_precedes {a b : String × Json} (hab : Precedes a b) (hba : Precedes b a) :
    index? a.1 = index? b.1 :=
  Option.ext fun _ ↦ ⟨mem_index?_of_precedes hab hba, mem_index?_of_precedes hba hab⟩

private theorem mem_iff_of_filter_index?_eq {xs ys : List (String × Json)}
    (h : ∀ i, (xs.filter fun m ↦ index? m.1 = i) = ys.filter fun m ↦ index? m.1 = i)
    (m : String × Json) : m ∈ xs ↔ m ∈ ys := by
  simpa using iff_of_eq (congrArg (m ∈ ·) (h (index? m.1)))

theorem eq_of_filter_index?_eq {xs ys : List (String × Json)} (hxs : xs.Pairwise Precedes)
    (hys : ys.Pairwise Precedes)
    (h : ∀ i, (xs.filter fun m ↦ index? m.1 = i) = ys.filter fun m ↦ index? m.1 = i) :
    xs = ys := by
  induction xs generalizing ys with
  | nil =>
    have hmem := mem_iff_of_filter_index?_eq h
    exact (List.eq_nil_iff_forall_not_mem.mpr fun m hm ↦ List.not_mem_nil ((hmem m).mpr hm)).symm
  | cons a xs ih =>
    cases ys with
    | nil =>
      exact absurd ((mem_iff_of_filter_index?_eq h a).mp List.mem_cons_self) List.not_mem_nil
    | cons b ys =>
      rw [List.pairwise_cons] at hxs hys
      -- otherwise each comes after the other one, so that they read alike and have one order
      have hab : a = b := by
        have hmem := mem_iff_of_filter_index?_eq h
        rcases List.mem_cons.mp ((hmem a).mp List.mem_cons_self) with hab | ha
        · exact hab
        rcases List.mem_cons.mp ((hmem b).mpr List.mem_cons_self) with hba | hb
        · exact hba.symm
        have hindex := index?_eq_of_precedes (hxs.1 b hb) (hys.1 a ha)
        have hfirst := h (index? b.1)
        rw [List.filter_cons, List.filter_cons, if_pos (decide_eq_true hindex),
          if_pos (decide_eq_true rfl)] at hfirst
        exact (List.cons.inj hfirst).1
      subst hab
      refine congrArg (a :: ·) (ih hxs.2 hys.2 fun i ↦ ?_)
      have hi := h i
      rw [List.filter_cons, List.filter_cons] at hi
      split at hi
      · exact (List.cons.inj hi).2
      · exact hi

/-- An object has one arrangement. -/
theorem Arranges.unique {arranged' : List (String × Json)} (h : Arranges ms arranged)
    (h' : Arranges ms arranged') : arranged = arranged' :=
  eq_of_filter_index?_eq h.ordered h'.ordered fun i ↦ (h.stable i).trans (h'.stable i).symm

/-! ## Lists stored under their indices -/

/-- The members of a list under the texts of their indices, in the order of the list. -/
def numbered (items : List Json) : List (String × Json) :=
  items.zipIdx.map fun x ↦ (x.2.repr, x.1)

/-- A list as an object keyed by the indices. -/
def keyedByIndex (items : List Json) : List (String × Json) := Members.ofList (numbered items)

theorem index?_repr {n : Nat} (h : n < indexBound) : index? n.repr = some n := by
  rw [index?, Nat.toList_repr, Text.unsignedBelow?_toDigits h]

theorem keyedByIndex_perm (items : List Json) : (keyedByIndex items).Perm (numbered items) := by
  refine Members.ofList_perm ?_
  rw [numbered, List.map_map, List.Nodup, List.pairwise_map]
  exact (Json.pairwise_zipIdx items 0).imp fun hlt heq ↦ Nat.ne_of_lt hlt (Text.eq_of_repr_eq heq)

private theorem index?_of_mem_zipIdx (hlength : items.length ≤ indexBound) {x : Json × Nat}
    (hx : x ∈ items.zipIdx) : index? x.2.repr = some x.2 := by
  obtain ⟨hlt, -⟩ := List.getElem?_eq_some_iff.mp (List.mem_zipIdx_iff_getElem?.mp hx)
  exact index?_repr (Nat.lt_of_lt_of_le hlt hlength)

/-- Where every index can be read, each member has one, and it determines the member. -/
theorem exists_index_of_mem_numbered (hlength : items.length ≤ indexBound) {m : String × Json}
    (hm : m ∈ numbered items) :
    ∃ n, index? m.1 = some n ∧ m.1 = n.repr ∧ items[n]? = some m.2 := by
  obtain ⟨x, hx, rfl⟩ := List.mem_map.mp hm
  exact ⟨x.2, index?_of_mem_zipIdx hlength hx, rfl, List.mem_zipIdx_iff_getElem?.mp hx⟩

theorem pairwise_numbered (hlength : items.length ≤ indexBound) :
    (numbered items).Pairwise Precedes := by
  refine List.pairwise_map.mpr ((Json.pairwise_zipIdx items 0).imp_of_mem ?_)
  intro x y hx hy hlt n hn
  rw [index?_of_mem_zipIdx hlength hy] at hn
  cases hn
  exact ⟨x.2, index?_of_mem_zipIdx hlength hx, Nat.le_of_lt hlt⟩

theorem arranges_numbered (hlength : items.length ≤ indexBound) :
    Arranges (keyedByIndex items) (numbered items) where
  perm := (keyedByIndex_perm items).symm
  ordered := pairwise_numbered hlength
  stable i := by
    -- there is at most one member of each index, so that their order does not matter
    have hany (l : List (String × Json)) : l.Pairwise fun _ _ ↦ True :=
      List.pairwise_of_forall fun _ _ ↦ trivial
    refine ((keyedByIndex_perm items).symm.filter _).eq_of_pairwise (fun a b ha hb _ _ ↦ ?_)
      (hany _) (hany _)
    obtain ⟨hamem, haindex⟩ := List.mem_filter.mp ha
    obtain ⟨hbmem, hbindex⟩ := List.mem_filter.mp hb
    obtain ⟨n, hn, hakey, haitem⟩ := exists_index_of_mem_numbered hlength hamem
    obtain ⟨n', hn', hbkey, hbitem⟩ :=
      exists_index_of_mem_numbered hlength ((keyedByIndex_perm items).mem_iff.mp hbmem)
    rw [decide_eq_true_iff] at haindex hbindex
    cases (hn.symm.trans haindex).trans (hbindex.symm.trans hn')
    exact Prod.ext (hakey.trans hbkey.symm) (Option.some.inj (haitem.symm.trans hbitem))

theorem Arranges.values_keyedByIndex (h : Arranges (keyedByIndex items) arranged)
    (hlength : items.length ≤ indexBound) : arranged.map Prod.snd = items := by
  rw [h.unique (arranges_numbered hlength), numbered, List.map_map]
  exact List.zipIdx_map_fst 0 items

/-! ## The transports of a credential -/

theorem at?_listTransports (v : Json) :
    (listTransports v).value.at? transportsPath = (v.at? transportsPath).map toList := by
  simp only [listTransports, transportsPath, Json.at?, Json.child?_modify]
  cases v.child? (.key "response") with
  | none => rfl
  | some response =>
    simp only [Option.map_some, Option.bind_some, Json.child?_modify]
    cases response.child? (.key "transports") <;> rfl

/-- **Coercing the transports loses nothing.** A list of at most `2 ^ 32` values that was stored
under its indices comes back as it was; and of any object that stands there, the list has the values
of its members, each once, in the order in which the keys read. -/
theorem listTransports_restores :
    (∀ v items, items.length ≤ Nat.pow 2 32 →
        v.at? transportsPath = some (.object (keyedByIndex items)) →
        (listTransports v).value.at? transportsPath = some (.array items)) ∧
      ∀ v ms, v.at? transportsPath = some (.object ms) →
        ∃ arranged, Arranges ms arranged ∧ (listTransports v).value.at? transportsPath =
          some (.array (arranged.map Prod.snd)) := by
  have hlisted {v : Json} {ms : List (String × Json)}
      (h : v.at? transportsPath = some (.object ms)) :
      (listTransports v).value.at? transportsPath =
        some (.array ((arrange ms).map Prod.snd)) := by
    rw [at?_listTransports, h, Option.map_some, toList, listedValues_eq_map]
  refine ⟨fun v items hlength h ↦ ?_, fun v ms h ↦ ⟨_, arranges_arrange ms, hlisted h⟩⟩
  rw [hlisted h, (arranges_arrange _).values_keyedByIndex hlength]

/-- Eleven values come back although the object holds the last one between the second and the third
one. Of keys at the limit, those that are too large or no numerals come last, and those that read
alike stay as they were. -/
theorem listTransports_restores_eleven :
    let item (s : String) : Json := .string s
    let stored (ts : List (String × Json)) : Json :=
      .object [("response", .object [("transports", .object ts)])]
    let items := ["a", "b", "c", "d", "e", "f", "g", "h", "i", "j", "k"].map item
    let sorted := stored [("0", item "a"), ("1", item "b"), ("10", item "k"), ("2", item "c"),
      ("3", item "d"), ("4", item "e"), ("5", item "f"), ("6", item "g"), ("7", item "h"),
      ("8", item "i"), ("9", item "j")]
    let limits := [("+1", item "a"), ("0", item "b"), ("01", item "c"), ("1", item "d"),
      ("4294967295", item "e"), ("4294967296", item "f"), ("x", item "g")]
    (items.length ≤ Nat.pow 2 32 ∧ sorted.at? transportsPath = some (.object (keyedByIndex items)) ∧
        (listTransports sorted).value.at? transportsPath = some (.array items)) ∧
      (stored limits).at? transportsPath = some (.object limits) ∧
        (∃ arranged, Arranges limits arranged ∧
          (listTransports (stored limits)).value.at? transportsPath =
            some (.array (arranged.map Prod.snd))) ∧
        listedValues limits = ["b", "a", "c", "d", "e", "f", "g"].map item := by
  intro item stored items sorted limits
  have hsorted : sorted.at? transportsPath = some (.object (keyedByIndex items)) := by
    decide +kernel
  have hindexed : indexedMembers limits = [(1, item "a"), (0, item "b"), (1, item "c"),
      (1, item "d"), (4294967295, item "e")] := by decide
  have hsort : ((indexedMembers limits).mergeSort fun a b ↦ a.1 ≤ b.1) = [(0, item "b"),
      (1, item "a"), (1, item "c"), (1, item "d"), (4294967295, item "e")] := by
    rw [hindexed]
    simp [List.mergeSort, List.MergeSort.Internal.splitInTwo, List.splitAt, List.splitAt.go]
  have hvalues : listedValues limits = ["b", "a", "c", "d", "e", "f", "g"].map item := by
    rw [listedValues, hsort]
    decide
  exact ⟨⟨by decide, hsorted, listTransports_restores.1 sorted items (by decide) hsorted⟩, rfl,
    listTransports_restores.2 (stored limits) limits rfl, hvalues⟩

end Credential

end PasskeyCeremony
