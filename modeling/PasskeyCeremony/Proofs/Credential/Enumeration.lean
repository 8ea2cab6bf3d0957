import Mathlib.Data.List.Sort
import PasskeyCeremony.Proofs.Credential.Transports

/-!
# Transports in the order of scripts

Scripts enumerate the keys of an object in an order of their own (`Enumerates`): the array indices
first, ascending, and then all other keys as they stand in the object. An array index is a number
below the limit as it is written in decimal.

The transports are listed in the order in which their keys read, and some keys read as a number
without being an array index (`IsLoose`): those with a sign, those with zeros in front, and the
limit itself. They are listed among the indices, where no script has them. The two orders agree on
the keys of an object exactly if its loose keys are in nobody's way (`Undisturbed`), in particular
if there are none.
-/

namespace PasskeyCeremony

namespace Credential

variable {keys others listed : List String} {indices : List Nat} {key a b : String} {m n : Nat}
  {value : String → Json}

/-! ## Array indices and loose keys -/

/-- The key is an array index: a number below the limit as it is written, so that there is neither
a sign nor a zero in front. -/
def IsArrayIndex (key : String) (n : Nat) : Prop := n < Nat.pow 2 32 - 1 ∧ key = n.repr

/-- The key reads as a number although it is no array index. -/
inductive IsLoose (key : String) : Nat → Prop where
  /-- The number stands after a plus sign. -/
  | signed {ds : List Char} {n : Nat} (hkey : key.toList = '+' :: ds) (hds : Text.IsNumeral ds n)
      (hn : n < Nat.pow 2 32) : IsLoose key n
  /-- There are zeros in front of the number. -/
  | padded {c : Char} {ds : List Char} {n : Nat} (hkey : key.toList = '0' :: c :: ds)
      (hds : Text.IsNumeral ('0' :: c :: ds) n) (hn : n < Nat.pow 2 32) : IsLoose key n
  /-- The number is the limit. -/
  | limit (hkey : key = "4294967295") : IsLoose key 4294967295

def ReadsAs (key : String) (n : Nat) : Prop := IsArrayIndex key n ∨ IsLoose key n

theorem repr_limit : (4294967295 : Nat).repr = "4294967295" := by decide

theorem index?_eq_some_iff : index? key = some n ↔ ReadsAs key n := by
  have hlimit : Nat.pow 2 32 - 1 = 4294967295 := rfl
  have hbound : Nat.pow 2 32 = 4294967296 := rfl
  rw [index?, Text.unsignedBelow?_eq_some_iff, indexBound, ReadsAs]
  constructor
  · rintro ⟨⟨ds, hkey | hkey, hds⟩, hn⟩
    · by_cases hpadded : ∃ c rest, ds = '0' :: c :: rest
      · obtain ⟨c, rest, rfl⟩ := hpadded
        exact Or.inr (.padded hkey hds hn)
      · -- without zeros in front the key is the number as it is written
        have hrepr : key = n.repr := by
          have hdigits := hds.eq_toDigits fun c rest hrest ↦ hpadded ⟨c, rest, hrest⟩
          rw [← String.toList_inj, hkey, hdigits, Nat.toList_repr]
        by_cases hlast : n = 4294967295
        · rw [hlast, repr_limit] at hrepr
          exact Or.inr (hlast ▸ .limit hrepr)
        · exact Or.inl ⟨by omega, hrepr⟩
    · exact Or.inr (.signed hkey hds hn)
  · rintro (⟨hn, rfl⟩ | ⟨hkey, hds, hn⟩ | ⟨hkey, hds, hn⟩ | rfl)
    · rw [Nat.toList_repr]
      exact ⟨⟨_, Or.inl rfl, Text.isNumeral_toDigits n⟩, by omega⟩
    · exact ⟨⟨_, Or.inr hkey, hds⟩, hn⟩
    · exact ⟨⟨_, Or.inl hkey, hds⟩, hn⟩
    · rw [← repr_limit, Nat.toList_repr]
      exact ⟨⟨_, Or.inl rfl, Text.isNumeral_toDigits _⟩, by omega⟩

theorem IsArrayIndex.not_isLoose (h : IsArrayIndex key n) : ¬IsLoose key m := by
  obtain ⟨hn, rfl⟩ := h
  rintro (⟨hkey, -, -⟩ | ⟨hkey, -, -⟩ | hkey)
  · rw [Nat.toList_repr] at hkey
    exact (Text.isNumeral_toDigits n).ne_plus _ hkey
  · rw [Nat.toList_repr] at hkey
    rw [Text.eq_zero_of_toDigits_eq hkey] at hkey
    cases hkey
  · rw [← repr_limit] at hkey
    rw [Text.eq_of_repr_eq hkey] at hn
    exact Nat.lt_irrefl _ hn

/-! ## The two orders -/

/-- The keys of an object as scripts enumerate them: those that are array indices, and then the
others. -/
structure Enumerates (keys : List String) (indices : List Nat) (others : List String) : Prop where
  /-- Each key is there once. -/
  perm : (indices.map Nat.repr ++ others).Perm keys
  /-- The array indices are below the limit. -/
  lt_limit : ∀ n ∈ indices, n < Nat.pow 2 32 - 1
  /-- The array indices ascend. -/
  ascending : indices.Pairwise (· < ·)
  /-- No other key is an array index. -/
  not_isArrayIndex : ∀ key ∈ others, ∀ n, ¬IsArrayIndex key n
  /-- The others are in the order of the object. -/
  sublist : others.Sublist keys

/-- What two keys of an object, of which `a` stands before `b` there, have to be like if loose keys
are in nobody's way. -/
structure Undisturbed (a b : String) : Prop where
  /-- What stands before a loose key reads as a number too, and as no greater one. -/
  before : ∀ n, IsLoose b n → ∃ m ≤ n, ReadsAs a m
  /-- An array index that stands after a loose key is a smaller number. -/
  after : ∀ m n, IsLoose a m → IsArrayIndex b n → n < m

def arrayIndex? (key : String) : Option Nat :=
  (index? key).filter fun n ↦ n < Nat.pow 2 32 - 1 ∧ key = n.repr

theorem arrayIndex?_eq_some_iff : arrayIndex? key = some n ↔ IsArrayIndex key n := by
  rw [arrayIndex?, Option.filter_eq_some_iff, index?_eq_some_iff, decide_eq_true_iff]
  exact ⟨fun h ↦ h.2, fun h ↦ ⟨Or.inl h, h⟩⟩

theorem arrayIndex?_eq_none_iff : arrayIndex? key = none ↔ ∀ n, ¬IsArrayIndex key n := by
  simp only [Option.eq_none_iff_forall_ne_some, ne_eq, arrayIndex?_eq_some_iff]

def looseNumber? (key : String) : Option Nat :=
  if arrayIndex? key = none then index? key else none

theorem looseNumber?_eq_some_iff : looseNumber? key = some n ↔ IsLoose key n := by
  rw [looseNumber?, Option.ite_none_right_eq_some, arrayIndex?_eq_none_iff, index?_eq_some_iff]
  constructor
  · rintro ⟨hnone, hreads⟩
    exact hreads.resolve_left (hnone n)
  · exact fun hloose ↦ ⟨fun _ hindex ↦ hindex.not_isLoose hloose, Or.inr hloose⟩

theorem looseNumber?_eq_none_iff : looseNumber? key = none ↔ ∀ n, ¬IsLoose key n := by
  simp only [Option.eq_none_iff_forall_ne_some, ne_eq, looseNumber?_eq_some_iff]

theorem undisturbed_iff : Undisturbed a b ↔
    (∀ n ∈ looseNumber? b, ∃ m ∈ index? a, m ≤ n) ∧
      ∀ m ∈ looseNumber? a, ∀ n ∈ arrayIndex? b, n < m := by
  simp only [Option.mem_def, looseNumber?_eq_some_iff, arrayIndex?_eq_some_iff, index?_eq_some_iff]
  constructor
  · intro h
    exact ⟨fun n hn ↦ (h.before n hn).imp fun _ h ↦ h.symm, fun m hm n hn ↦ h.after m n hm hn⟩
  · rintro ⟨hbefore, hafter⟩
    exact ⟨fun n hn ↦ (hbefore n hn).imp fun _ h ↦ h.symm, fun m n hm hn ↦ hafter m hm n hn⟩

instance : Decidable (Undisturbed a b) := decidable_of_iff _ undisturbed_iff.symm

/-- A loose key after all indices and before all names is in nobody's way. -/
example : ["+7", "3", "x"].Pairwise Undisturbed := by decide

theorem map_repr_filterMap_arrayIndex? (keys : List String) :
    (keys.filterMap arrayIndex?).map Nat.repr =
      keys.filter fun key ↦ (arrayIndex? key).isSome := by
  induction keys with
  | nil => rfl
  | cons key keys ih =>
    cases hkey : arrayIndex? key with
    | none => rw [List.filterMap_cons_none hkey, List.filter_cons_of_neg (by simp [hkey]), ih]
    | some n =>
      obtain ⟨-, hrepr⟩ := arrayIndex?_eq_some_iff.mp hkey
      rw [List.filterMap_cons_some hkey, List.filter_cons_of_pos (by simp [hkey]), List.map_cons,
        ih, ← hrepr]

theorem exists_enumerates (hkeys : keys.Nodup) :
    ∃ indices others, Enumerates keys indices others := by
  have hsorted := List.mergeSort_perm (keys.filterMap arrayIndex?) (· ≤ ·)
  refine ⟨(keys.filterMap arrayIndex?).mergeSort (· ≤ ·),
    keys.filter fun key ↦ !(arrayIndex? key).isSome, ?_, ?_, ?_, ?_, List.filter_sublist⟩
  · refine ((hsorted.map Nat.repr).append_right _).trans ?_
    rw [map_repr_filterMap_arrayIndex?]
    exact List.filter_append_perm _ keys
  · intro n hn
    obtain ⟨key, -, hkey⟩ := List.mem_filterMap.mp (hsorted.mem_iff.mp hn)
    exact (arrayIndex?_eq_some_iff.mp hkey).1
  · have hnodup : (keys.filterMap arrayIndex?).Nodup := by
      refine hkeys.filterMap fun a b n ha hb ↦ ?_
      rw [(arrayIndex?_eq_some_iff.mp ha).2, (arrayIndex?_eq_some_iff.mp hb).2]
    exact (List.sortedLE_mergeSort.sortedLT_of_nodup (hsorted.nodup_iff.mpr hnodup)).pairwise
  · intro key hkey
    have hnone := (List.mem_filter.mp hkey).2
    rw [Option.not_isSome, Option.isNone_iff_eq_none] at hnone
    exact arrayIndex?_eq_none_iff.mp hnone

/-! ## Where the orders agree -/

/-- The order of the list: where the second key reads as a number, so does the first one, and as no
greater one. -/
def ListedUpTo (a b : String) : Prop := ∀ n, ReadsAs b n → ∃ m ≤ n, ReadsAs a m

theorem precedes_iff {x y : Json} : Precedes (a, x) (b, y) ↔ ListedUpTo a b := by
  simp only [Precedes, ListedUpTo, Option.mem_def, index?_eq_some_iff, and_comm]

/-- The one key stands before the other one in the object. -/
def StandsBefore (keys : List String) (a b : String) : Prop := keys.idxOf a < keys.idxOf b

theorem pairwise_standsBefore (hkeys : keys.Nodup) : keys.Pairwise (StandsBefore keys) := by
  rw [List.pairwise_iff_getElem]
  intro i j hi hj hij
  rwa [StandsBefore, hkeys.idxOf_getElem, hkeys.idxOf_getElem]

/-- What holds of any two in a list that is in the order of the object holds of two of them that
stand in this order there. -/
theorem rel_of_standsBefore {R : String → String → Prop}
    (horder : listed.Pairwise (StandsBefore keys)) (hR : listed.Pairwise R) (ha : a ∈ listed)
    (hb : b ∈ listed) (h : StandsBefore keys a b) : R a b := by
  rw [List.pairwise_iff_getElem] at horder hR
  obtain ⟨i, hi, rfl⟩ := List.mem_iff_getElem.mp ha
  obtain ⟨j, hj, rfl⟩ := List.mem_iff_getElem.mp hb
  rcases Nat.lt_trichotomy i j with hij | rfl | hji
  · exact hR i j hi hj hij
  · exact absurd h (Nat.lt_irrefl _)
  · exact absurd h (Nat.lt_asymm (horder j i hj hi hji))

/-- Members with these keys. -/
def membersOf (keys : List String) (value : String → Json) : List (String × Json) :=
  keys.map fun key ↦ (key, value key)

theorem keys_membersOf (keys : List String) (value : String → Json) :
    (membersOf keys value).map Prod.fst = keys := by
  rw [membersOf, List.map_map]
  exact List.map_id keys

theorem filter_membersOf (keys : List String) (value : String → Json) (i : Option Nat) :
    ((membersOf keys value).filter fun m ↦ index? m.1 = i) =
      membersOf (keys.filter fun key ↦ index? key = i) value := List.filter_map

/-- Members are arranged if their keys are. -/
theorem arranges_membersOf_iff :
    Arranges (membersOf keys value) (membersOf listed value) ↔
      listed.Perm keys ∧ listed.Pairwise ListedUpTo ∧
        ∀ i, (listed.filter fun key ↦ index? key = i) = keys.filter fun key ↦ index? key = i := by
  constructor
  · rintro ⟨hperm, hordered, hstable⟩
    refine ⟨?_, (List.pairwise_map.mp hordered).imp precedes_iff.mp, fun i ↦ ?_⟩
    · have hkeys := hperm.map Prod.fst
      rwa [keys_membersOf, keys_membersOf] at hkeys
    · have hkeys := congrArg (List.map Prod.fst) (hstable i)
      rwa [filter_membersOf, filter_membersOf, keys_membersOf, keys_membersOf] at hkeys
  · rintro ⟨hperm, hordered, hstable⟩
    refine ⟨hperm.map _, List.pairwise_map.mpr (hordered.imp precedes_iff.mpr), fun i ↦ ?_⟩
    rw [filter_membersOf, filter_membersOf, hstable i]

theorem ReadsAs.unique (hm : ReadsAs key m) (hn : ReadsAs key n) : m = n := by
  rw [← index?_eq_some_iff] at hm hn
  exact Option.some.inj (hm.symm.trans hn)

theorem standsBefore_total (ha : a ∈ keys) (hne : a ≠ b) :
    StandsBefore keys a b ∨ StandsBefore keys b a :=
  Nat.lt_or_gt_of_ne fun h ↦ hne ((List.idxOf_inj ha).mp h)

namespace Enumerates

variable (henum : Enumerates keys indices others)

include henum

theorem mem_or (ha : a ∈ keys) : a ∈ indices.map Nat.repr ∨ a ∈ others :=
  List.mem_append.mp (henum.perm.mem_iff.mpr ha)

theorem isArrayIndex (hn : n ∈ indices) : IsArrayIndex n.repr n := ⟨henum.lt_limit n hn, rfl⟩

theorem index?_repr (hn : n ∈ indices) : index? n.repr = some n :=
  index?_eq_some_iff.mpr (Or.inl (henum.isArrayIndex hn))

theorem repr_mem (hn : n ∈ indices) : n.repr ∈ keys :=
  henum.perm.mem_iff.mp (List.mem_append_left _ (List.mem_map_of_mem hn))

theorem isLoose (ha : a ∈ others) (hn : ReadsAs a n) : IsLoose a n :=
  hn.resolve_left (henum.not_isArrayIndex a ha n)

theorem mem_others (ha : a ∈ keys) (hn : IsLoose a n) : a ∈ others := by
  refine (henum.mem_or ha).resolve_left fun hindex ↦ ?_
  obtain ⟨m, hm, rfl⟩ := List.mem_map.mp hindex
  exact (henum.isArrayIndex hm).not_isLoose hn

theorem mem_indices (ha : a ∈ keys) (hn : IsArrayIndex a n) : a ∈ indices.map Nat.repr :=
  (henum.mem_or ha).resolve_right fun hother ↦ henum.not_isArrayIndex a hother n hn

variable (hkeys : keys.Nodup)

include hkeys

theorem pairwise_others : others.Pairwise (StandsBefore keys) :=
  (pairwise_standsBefore hkeys).sublist henum.sublist

theorem undisturbed (hordered : (indices.map Nat.repr ++ others).Pairwise ListedUpTo)
    (hstable : ∀ i, ((indices.map Nat.repr ++ others).filter fun key ↦ index? key = i) =
      keys.filter fun key ↦ index? key = i) :
    keys.Pairwise Undisturbed := by
  obtain ⟨-, hothers, hindices⟩ := List.pairwise_append.mp hordered
  have hstands := pairwise_standsBefore hkeys
  refine hstands.imp_of_mem fun {a b} ha hb hab ↦ ⟨fun n hn ↦ ?_, fun m n hm hn ↦ ?_⟩
  · have hb := henum.mem_others hb hn
    rcases henum.mem_or ha with ha | ha
    · exact hindices a ha b hb n (Or.inr hn)
    · exact rel_of_standsBefore (henum.pairwise_others hkeys) hothers ha hb hab n (Or.inr hn)
  · have ha := henum.mem_others ha hm
    have hb := henum.mem_indices hb hn
    obtain ⟨k, hk, hbk⟩ := hindices b hb a ha m (Or.inr hm)
    rw [hbk.unique (Or.inl hn)] at hk
    refine Nat.lt_of_le_of_ne hk ?_
    rintro rfl
    -- keys that read alike are listed in the order of the object
    have halike := hstands.filter fun key ↦ index? key = some n
    rw [← hstable, List.filter_append, List.pairwise_append] at halike
    have hba : StandsBefore keys b a := by
      refine halike.2.2 b (List.mem_filter.mpr ⟨hb, ?_⟩) a (List.mem_filter.mpr ⟨ha, ?_⟩)
      · exact decide_eq_true (index?_eq_some_iff.mpr (Or.inl hn))
      · exact decide_eq_true (index?_eq_some_iff.mpr (Or.inr hm))
    exact absurd hab (Nat.lt_asymm hba)

variable (hundisturbed : keys.Pairwise Undisturbed)

include hundisturbed

/-- An array index is smaller than what another key reads as, or the same and stands before it. -/
theorem lt_or_standsBefore (hm : m ∈ indices) (hb : b ∈ others) (hn : ReadsAs b n) :
    m < n ∨ (m = n ∧ StandsBefore keys m.repr b) := by
  have hloose := henum.isLoose hb hn
  have hindex := henum.isArrayIndex hm
  have hne : m.repr ≠ b := by
    rintro rfl
    exact hindex.not_isLoose hloose
  have hstands := pairwise_standsBefore hkeys
  have hbkeys := henum.sublist.subset hb
  rcases standsBefore_total (henum.repr_mem hm) hne with hmb | hbm
  · have hrel := rel_of_standsBefore hstands hundisturbed (henum.repr_mem hm) hbkeys hmb
    obtain ⟨k, hk, hreads⟩ := hrel.before n hloose
    rw [hreads.unique (Or.inl hindex)] at hk
    exact (Nat.lt_or_eq_of_le hk).imp_right fun h ↦ ⟨h, hmb⟩
  · have hrel := rel_of_standsBefore hstands hundisturbed hbkeys (henum.repr_mem hm) hbm
    exact Or.inl (hrel.after n m hloose hindex)

theorem pairwise_listedUpTo : (indices.map Nat.repr ++ others).Pairwise ListedUpTo := by
  refine List.pairwise_append.mpr ⟨?_, ?_, ?_⟩
  · refine List.pairwise_map.mpr (henum.ascending.imp_of_mem fun {m n} hm hn hlt k hk ↦ ?_)
    rw [hk.unique (Or.inl (henum.isArrayIndex hn))]
    exact ⟨m, Nat.le_of_lt hlt, Or.inl (henum.isArrayIndex hm)⟩
  · have hothers := henum.pairwise_others hkeys
    refine (hothers.and (hundisturbed.sublist henum.sublist)).imp_of_mem
      fun _ hb h n hn ↦ h.2.before n (henum.isLoose hb hn)
  · intro a ha b hb n hn
    obtain ⟨m, hm, rfl⟩ := List.mem_map.mp ha
    refine ⟨m, ?_, Or.inl (henum.isArrayIndex hm)⟩
    rcases henum.lt_or_standsBefore hkeys hundisturbed hm hb hn with hlt | ⟨heq, -⟩
    · exact Nat.le_of_lt hlt
    · exact Nat.le_of_eq heq

theorem filter_eq (i : Option Nat) :
    ((indices.map Nat.repr ++ others).filter fun key ↦ index? key = i) =
      keys.filter fun key ↦ index? key = i := by
  refine (henum.perm.filter _).eq_of_pairwise (fun _ _ _ _ hab hba ↦ absurd hab (Nat.lt_asymm hba))
    ?_ ((pairwise_standsBefore hkeys).filter _)
  rw [List.filter_append]
  refine List.pairwise_append.mpr ⟨?_, (henum.pairwise_others hkeys).filter _, ?_⟩
  · -- no two array indices read alike
    have hdistinct : (indices.map Nat.repr).Pairwise fun a b ↦ index? a ≠ index? b := by
      refine List.pairwise_map.mpr (henum.ascending.imp_of_mem fun {m n} hm hn hlt heq ↦ ?_)
      rw [henum.index?_repr hm, henum.index?_repr hn] at heq
      exact Nat.ne_of_lt hlt (Option.some.inj heq)
    refine (hdistinct.filter _).imp_of_mem fun ha hb hne ↦ absurd ?_ hne
    have ha := of_decide_eq_true (List.mem_filter.mp ha).2
    have hb := of_decide_eq_true (List.mem_filter.mp hb).2
    exact ha.trans hb.symm
  · intro a ha b hb
    obtain ⟨ha, hai⟩ := List.mem_filter.mp ha
    obtain ⟨hb, hbi⟩ := List.mem_filter.mp hb
    obtain ⟨m, hm, rfl⟩ := List.mem_map.mp ha
    rw [decide_eq_true_iff] at hai hbi
    have hread : ReadsAs b m :=
      index?_eq_some_iff.mp ((hbi.trans hai.symm).trans (henum.index?_repr hm))
    rcases henum.lt_or_standsBefore hkeys hundisturbed hm hb hread with hlt | ⟨-, hstands⟩
    · exact absurd hlt (Nat.lt_irrefl m)
    · exact hstands

end Enumerates

/-- Values that tell their keys apart show the order of the list. -/
theorem arrange_membersOf_string
    (h : listedValues (membersOf keys .string) = listed.map .string) :
    arrange (membersOf keys .string) = membersOf listed .string := by
  have hkey : ∀ m ∈ arrange (membersOf keys .string), (m.1, Json.string m.1) = m := by
    intro m hm
    obtain ⟨key, -, rfl⟩ := List.mem_map.mp ((arrange_perm _).mem_iff.mp hm)
    rfl
  have hmembers : membersOf ((arrange (membersOf keys .string)).map Prod.fst) .string =
      arrange (membersOf keys .string) := by
    rw [membersOf, List.map_map]
    exact (List.map_congr_left hkey).trans (List.map_id _)
  rw [listedValues_eq_map, ← hmembers, membersOf, List.map_map] at h
  rw [← hmembers, List.map_injective_iff.mpr (fun _ _ ↦ Json.string.inj) h]

/-- **Scripts and the list of the transports.** The transports of an object with these keys are
listed in the order in which scripts enumerate the keys, whatever values stand under them, exactly
if no loose key is in the way. In particular they are if there are no loose keys. -/
theorem listTransports_enumerates_iff (hkeys : keys.Nodup) :
    ((∀ (v : Json) (value : String → Json) (indices : List Nat) (others : List String),
        v.at? transportsPath = some (.object (keys.map fun key ↦ (key, value key))) →
        Enumerates keys indices others →
        (listTransports v).value.at? transportsPath =
          some (.array ((indices.map Nat.repr ++ others).map value))) ↔
      keys.Pairwise Undisturbed) ∧
    ((∀ key ∈ keys, ∀ n, ¬IsLoose key n) → keys.Pairwise Undisturbed) := by
  refine ⟨⟨fun h ↦ ?_, fun hundisturbed v value indices others hv henum ↦ ?_⟩, fun hloose ↦ ?_⟩
  · obtain ⟨indices, others, henum⟩ := exists_enumerates hkeys
    let transports := Json.object (membersOf keys .string)
    have hlisted := h (.object [("response", .object [("transports", transports)])]) .string indices
      others rfl henum
    have harranged := arranges_arrange (membersOf keys .string)
    rw [arrange_membersOf_string (Json.array.inj (Option.some.inj hlisted))] at harranged
    obtain ⟨-, hordered, hstable⟩ := arranges_membersOf_iff.mp harranged
    exact henum.undisturbed hkeys hordered hstable
  · have harranged : Arranges (membersOf keys value)
        (membersOf (indices.map Nat.repr ++ others) value) :=
      arranges_membersOf_iff.mpr ⟨henum.perm, henum.pairwise_listedUpTo hkeys hundisturbed,
        henum.filter_eq hkeys hundisturbed⟩
    rw [at?_listTransports, hv, Option.map_some, toList, listedValues_eq_map, ← membersOf,
      (arranges_arrange _).unique harranged, membersOf, List.map_map]
    rfl
  · refine List.pairwise_of_forall_mem_list fun a ha b hb ↦ ⟨fun n hn ↦ ?_, fun m _ hm ↦ ?_⟩
    · exact absurd hn (hloose b hb n)
    · exact absurd hm (hloose a ha m)

/-- With a zero in front the first key of the object is listed first, although only the second one
is an array index. -/
theorem listTransports_enumerates_iff_padded :
    let stored (ts : List (String × Json)) : Json :=
      .object [("response", .object [("transports", .object ts)])]
    let padded := [("01", Json.string "usb"), ("2", .string "nfc")]
    let plain := [("0", Json.string "usb"), ("10", .string "ble"), ("2", .string "nfc"),
      ("x", .string "hybrid")]
    (["01", "2"].Nodup ∧ Enumerates ["01", "2"] [2] ["01"] ∧
        (listTransports (stored padded)).value.at? transportsPath =
          some (.array [.string "usb", .string "nfc"]) ∧
        ¬["01", "2"].Pairwise Undisturbed) ∧
      ["0", "10", "2", "x"].Nodup ∧ Enumerates ["0", "10", "2", "x"] [0, 2, 10] ["x"] ∧
        (∀ key ∈ ["0", "10", "2", "x"], ∀ n, ¬IsLoose key n) ∧
        (listTransports (stored plain)).value.at? transportsPath =
          some (.array [.string "usb", .string "nfc", .string "ble", .string "hybrid"]) := by
  intro stored padded plain
  have hpadded : Enumerates ["01", "2"] [2] ["01"] := by
    refine ⟨by decide, by decide, by decide, ?_, by decide⟩
    exact List.forall_mem_singleton.mpr (arrayIndex?_eq_none_iff.mp (by decide))
  have hplain : Enumerates ["0", "10", "2", "x"] [0, 2, 10] ["x"] := by
    refine ⟨by decide, by decide, by decide, ?_, by decide⟩
    exact List.forall_mem_singleton.mpr (arrayIndex?_eq_none_iff.mp (by decide))
  have hlisted : (listTransports (stored padded)).value.at? transportsPath =
      some (.array [.string "usb", .string "nfc"]) := by
    have hsorted : ((indexedMembers padded).mergeSort fun a b ↦ a.1 ≤ b.1) =
        [(1, .string "usb"), (2, .string "nfc")] := by
      have hindexed : indexedMembers padded = [(1, .string "usb"), (2, .string "nfc")] := by decide
      rw [hindexed]
      simp [List.mergeSort, List.MergeSort.Internal.splitInTwo, List.splitAt, List.splitAt.go]
    have hvalues : listedValues padded = [.string "usb", .string "nfc"] := by
      rw [listedValues, hsorted]
      decide
    rw [← hvalues]
    rfl
  have hloose : ∀ key ∈ ["0", "10", "2", "x"], ∀ n, ¬IsLoose key n := by
    simp only [← looseNumber?_eq_none_iff]
    decide
  refine ⟨⟨by decide, hpadded, hlisted, fun hundisturbed ↦ ?_⟩, by decide, hplain, hloose, ?_⟩
  · have hscripts := (listTransports_enumerates_iff (by decide)).1.mpr hundisturbed (stored padded)
      (fun key ↦ (padded.lookup key).getD .null) [2] ["01"] (by decide) hpadded
    rw [hlisted] at hscripts
    exact absurd hscripts (by decide)
  · have hundisturbed := (listTransports_enumerates_iff (by decide)).2 hloose
    exact (listTransports_enumerates_iff (by decide)).1.mpr hundisturbed (stored plain)
      (fun key ↦ (plain.lookup key).getD .null) [0, 2, 10] ["x"] (by decide) hplain

end Credential

end PasskeyCeremony
