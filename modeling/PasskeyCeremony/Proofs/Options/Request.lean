import PasskeyCeremony.Options.Request
import PasskeyCeremony.Proofs.Json.Members
import PasskeyCeremony.Proofs.Json.Object

/-!
# Request options are an opaque bundle

A bundle keeps the list of allowed credentials apart from the other members, and puts it back where
the bundle is written. All that can be lost on the way is a null under the key of the list, which
stands for no list and is not written again (`Bundles.toJson`). What is written is read as the same
bundle (`ofMembers?_members`), so nothing is lost a second time.

Members are compared by what their keys lead to: reading and writing are each one equation about the
look-up of any key, and ordered members with the same look-ups are the same.
-/

namespace PasskeyCeremony.RequestOptions

variable {ms written : List (String × Json)} {o : RequestOptions} {allow : Option (List Json)}

/-! ## The list -/

/-- What stands for a list: nothing, a null or a list. -/
def listed? : Option Json → Option (Option (List Json))
  | none | some .null => some none
  | some (.array items) => some (some items)
  | some _ => none

theorem listed?_eq_some_iff {v : Option Json} :
    listed? v = some allow ↔ allow.map .array = if v = some .null then none else v := by
  cases allow with
  | none => rcases v with _ | _ | _ | _ | _ | _ | _ <;> simp [listed?]
  | some items => rcases v with _ | _ | _ | _ | _ | _ | _ <;> simp [listed?, eq_comm]

theorem listed?_eq_none_iff {v : Option Json} :
    listed? v = none ↔ ∃ w, v = some w ∧ w ≠ .null ∧ ∀ items, w ≠ .array items := by
  rcases v with _ | _ | _ | _ | _ | _ | _ <;> simp [listed?]

/-- The last member under the key decides, if it is the only one. -/
theorem allowListOf?_eq (written : List (String × Json)) :
    allowListOf? written =
      if (written.map Prod.fst).count allowKey ≤ 1 then
        listed? (Members.get? (Members.ofList written) allowKey)
      else none := by
  have hcount : (written.map Prod.fst).count allowKey =
      (written.filter fun m ↦ m.1 = allowKey).length := by
    rw [List.count_eq_countP, List.countP_map, List.countP_eq_length_filter]
    rfl
  rw [hcount, Members.get?_ofList, allowListOf?]
  cases written.filter fun m ↦ m.1 = allowKey with
  | nil => rfl
  | cons m rest =>
    obtain ⟨key, v⟩ := m
    cases rest with
    | nil => cases v <;> rfl
    | cons _ _ =>
      rw [if_neg (by simp)]
      cases v <;> rfl

/-! ## Reading -/

theorem ofMembers?_eq_some_iff :
    ofMembers? written = some o ↔
      allowListOf? written = some o.allowList ∧
        o.rest = Members.erase (Members.ofList written) allowKey := by
  rw [ofMembers?, Option.map_eq_some_iff]
  constructor
  · rintro ⟨allow, hallow, rfl⟩
    exact ⟨hallow, Members.ofList_filter_ne written allowKey⟩
  · rintro ⟨hallow, hrest⟩
    refine ⟨_, hallow, ?_⟩
    obtain ⟨allow, rest, hsorted, hkey⟩ := o
    congr 1
    rw [Members.ofList_filter_ne]
    exact hrest.symm

section

variable (hms : Members.Sorted ms)

include hms

theorem allowListOf?_of_sorted : allowListOf? ms = listed? (Members.get? ms allowKey) := by
  have honce := List.nodup_iff_count_le_one.mp hms.nodup_keys allowKey
  rw [allowListOf?_eq, if_pos honce, Members.ofList_of_sorted hms]

theorem ofMembers?_eq_some_iff_of_sorted :
    ofMembers? ms = some o ↔
      listed? (Members.get? ms allowKey) = some o.allowList ∧
        o.rest = Members.erase ms allowKey := by
  rw [ofMembers?_eq_some_iff, allowListOf?_of_sorted hms, Members.ofList_of_sorted hms]

theorem ofMembers?_eq_none_iff :
    ofMembers? ms = none ↔
      ∃ v, Members.get? ms allowKey = some v ∧ v ≠ .null ∧ ∀ items, v ≠ .array items := by
  rw [ofMembers?, Option.map_eq_none_iff, allowListOf?_of_sorted hms, listed?_eq_none_iff]

end

/-- A text is a bundle when it holds an object that is one, and does not write the list twice. -/
theorem parse?_eq_some_iff {text : List Char} :
    parse? text = some o ↔
      ∃ written, Json.parseMembers? text = some written ∧
        (written.map Prod.fst).count allowKey ≤ 1 ∧
        Json.parse? text = some (.object (Members.ofList written)) ∧
        ofMembers? (Members.ofList written) = some o := by
  rw [parse?, Option.bind_eq_some_iff]
  refine exists_congr fun written ↦ and_congr_right fun hwritten ↦ ?_
  have hparse := Json.parse?_eq_object_iff.mpr ⟨written, hwritten, rfl⟩
  have hsorted := Members.sorted_ofList written
  rw [and_iff_right hparse, ofMembers?_eq_some_iff, ofMembers?_eq_some_iff_of_sorted hsorted,
    ← and_assoc, allowListOf?_eq, Option.ite_none_right_eq_some]

/-! ## Writing -/

/-- The members of a bundle, with the list among them. -/
def members (o : RequestOptions) : List (String × Json) :=
  match o.allowList with
  | none => o.rest
  | some items => Members.insert o.rest allowKey (.array items)

theorem toJson_eq (o : RequestOptions) : o.toJson = .object o.members := by
  rw [toJson, members]
  cases o.allowList <;> rfl

theorem sorted_members (o : RequestOptions) : Members.Sorted o.members := by
  rw [members]
  split
  · exact o.sorted
  · exact o.sorted.insert _ _

theorem get?_allowKey (o : RequestOptions) : o.get? allowKey = none := by
  rw [get?, Members.get?, List.lookup_eq_none_iff]
  intro m hm
  rw [bne_iff_ne]
  rintro hkey
  exact o.allow_not_mem (List.mem_map.mpr ⟨m, hm, hkey.symm⟩)

theorem get?_members (o : RequestOptions) (key : String) :
    Members.get? o.members key = if key = allowKey then o.allowList.map .array else o.get? key := by
  have hlist := o.get?_allowKey
  rw [members]
  cases o.allowList with
  | none =>
    by_cases hkey : key = allowKey
    · rw [if_pos hkey, hkey]
      exact hlist
    · rw [if_neg hkey]
      rfl
  | some items => exact Members.get?_insert o.rest allowKey (.array items) key

/-- **What a bundle writes is read as that bundle.** -/
theorem ofMembers?_members (o : RequestOptions) : ofMembers? o.members = some o := by
  rw [ofMembers?_eq_some_iff_of_sorted o.sorted_members, o.get?_members, if_pos rfl]
  refine ⟨listed?_eq_some_iff.mpr (if_neg ?_).symm, ?_⟩
  · cases o.allowList <;> exact nofun
  refine o.sorted.ext (o.sorted_members.erase allowKey) fun key ↦ ?_
  rw [Members.get?_erase, o.get?_members]
  by_cases hkey : key = allowKey
  · rw [if_pos hkey, hkey]
    exact o.get?_allowKey
  · rw [if_neg hkey, if_neg hkey]
    rfl

/-! ## The bundle of an object -/

theorem hasRegistered_iff : o.hasRegistered = true ↔ o.allowed ≠ [] := by
  rw [hasRegistered, Bool.not_eq_true', List.isEmpty_eq_false_iff]

/-- What a bundle is to the object that it was read from. -/
structure Bundles (ms : List (String × Json)) (o : RequestOptions) : Prop where
  /-- It is written as that object, but a null in place of the list is left out. -/
  toJson : o.toJson = .object
    (if Members.get? ms allowKey = some .null then Members.erase ms allowKey else ms)
  /-- The list is the one of the object. -/
  allowed : ∀ items, Members.get? ms allowKey = some (.array items) → o.allowed = items
  /-- The list is empty where the object has none. -/
  unlisted : Members.get? ms allowKey = none ∨ Members.get? ms allowKey = some .null →
    o.allowed = []
  hasRegistered_iff : o.hasRegistered = true ↔ o.allowed ≠ []
  /-- Every other member is the one of the object. -/
  other : ∀ key, key ≠ allowKey → o.get? key = Members.get? ms key
  /-- The list is not among the other members. -/
  apart : o.get? allowKey = none

theorem bundles_of_ofMembers? (hms : Members.Sorted ms) (h : ofMembers? ms = some o) :
    Bundles ms o := by
  obtain ⟨hlisted, hrest⟩ := (ofMembers?_eq_some_iff_of_sorted hms).mp h
  have hlist := listed?_eq_some_iff.mp hlisted
  have hother : ∀ key, key ≠ allowKey → o.get? key = Members.get? ms key := by
    intro key hkey
    simp [get?, hrest, hkey]
  constructor
  · have hsorted : Members.Sorted
        (if Members.get? ms allowKey = some .null then Members.erase ms allowKey else ms) := by
      split
      · exact hms.erase allowKey
      · exact hms
    rw [toJson_eq]
    refine congrArg Json.object (o.sorted_members.ext hsorted fun key ↦ ?_)
    rw [get?_members, hlist]
    by_cases hkey : key = allowKey
    · rw [if_pos hkey, hkey]
      split <;> simp
    · rw [if_neg hkey, hother key hkey]
      split <;> simp [hkey]
  · intro items hitems
    rw [hitems, if_neg nofun, Option.map_eq_some_iff] at hlist
    obtain ⟨_, hallow, ⟨⟩⟩ := hlist
    rw [RequestOptions.allowed, hallow, Option.getD_some]
  · intro hunlisted
    have hnone : o.allowList.map Json.array = none := by
      rcases hunlisted with hmissing | hnull
      · rw [hlist, hmissing, ite_self]
      · rw [hlist, if_pos hnull]
    rw [RequestOptions.allowed, Option.map_eq_none_iff.mp hnone, Option.getD_none]
  · exact hasRegistered_iff
  · exact hother
  · exact o.get?_allowKey

/-- **Request options are an opaque bundle.** An object is refused only for what stands in place of
the list of allowed credentials, and whatever is not refused is carried along; a bundle that was
read from anywhere is read again from what it writes. A text is read like the object in it, except
that it must not write the list twice. -/
theorem requestOptions_opaque :
    (∀ ms, Members.Sorted ms →
      (ofMembers? ms = none ↔
        ∃ v, Members.get? ms allowKey = some v ∧ v ≠ .null ∧ ∀ items, v ≠ .array items) ∧
      ∀ o, ofMembers? ms = some o → Bundles ms o) ∧
    (∀ o : RequestOptions, ∃ ms, o.toJson = .object ms ∧ Members.Sorted ms ∧
      ofMembers? ms = some o) ∧
    ∀ text o, parse? text = some o ↔
      ∃ written, Json.parseMembers? text = some written ∧
        (written.map Prod.fst).count allowKey ≤ 1 ∧
        Json.parse? text = some (.object (Members.ofList written)) ∧
        ofMembers? (Members.ofList written) = some o := by
  refine ⟨fun ms hms ↦ ⟨ofMembers?_eq_none_iff hms, fun o ↦ bundles_of_ofMembers? hms⟩,
    fun o ↦ ⟨o.members, o.toJson_eq, o.sorted_members, o.ofMembers?_members⟩,
    fun text o ↦ parse?_eq_some_iff⟩

/-- The members of an object with two allowed credentials and a null elsewhere. -/
def twoAllowed : List (String × Json) :=
  [("allowCredentials", .array [.string "cred-2", .string "cred-1"]), ("challenge", .string "abc"),
    ("extensions", .null)]

/-- Options with two allowed credentials are carried along whole. -/
theorem requestOptions_opaque_two :
    ∃ o, ofMembers? twoAllowed = some o ∧ o.toJson = .object twoAllowed ∧
      o.allowed = [.string "cred-2", .string "cred-1"] ∧ o.hasRegistered = true := by
  obtain ⟨hnone, hsome⟩ := requestOptions_opaque.1 twoAllowed (by decide)
  have hlist : Members.get? twoAllowed allowKey =
      some (.array [.string "cred-2", .string "cred-1"]) := rfl
  obtain ⟨o, ho⟩ := Option.ne_none_iff_exists'.mp fun h ↦ by
    obtain ⟨_, hv, -, hitems⟩ := hnone.mp h
    rw [hlist, Option.some.injEq] at hv
    exact hitems _ hv.symm
  have hbundles := hsome o ho
  have hallowed := hbundles.allowed _ hlist
  have htoJson := hbundles.toJson
  rw [hlist, if_neg nofun] at htoJson
  refine ⟨o, ho, htoJson, hallowed, hbundles.hasRegistered_iff.mpr ?_⟩
  rw [hallowed]
  exact nofun

end PasskeyCeremony.RequestOptions
