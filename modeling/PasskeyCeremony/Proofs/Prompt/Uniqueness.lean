import Mathlib.Data.List.Nodup
import PasskeyCeremony.Proofs.Prompt.Names

/-!
# Names stay different

Texts are proposed as names one after the other. Each of them is checked against the labels of all
passkeys so far, and an accepted name becomes one more label. Two normalisations have to agree for
that to keep names apart: labels are trimmed and lowercased when the names in use are gathered, and
the check lowercases a text that it has trimmed before. They do, because an accepted name has no
blanks at its ends (`toLower_accepted`), so what it is compared by later is what it was checked by.

The labels only grow, so nothing that was refused as a duplicate is let through later
(`accepted_append`).
-/

namespace PasskeyCeremony

variable {inUse labels texts : List String} {name text : String}

/-! ## The last check -/

/-- The text passes the checks that do not depend on the names in use. -/
structure IsProper (text : String) : Prop where
  ne_blank : Text.trim text ≠ ""
  length_le : text.length ≤ maxNameLength
  isNameChar : ∀ c ∈ (Text.trim text).toList, isNameChar c = true

/-- What is left to check of a proper text is whether its name is in use. -/
theorem validateName_of_isProper (h : IsProper text) (inUse : List String) :
    validateName inUse text =
      if comparisonName text ∈ inUse then .error .duplicate else .ok (Text.trim text) := by
  have hchars : ∀ c ∈ (Text.trim text).toList, IsAllowed c := fun c hc ↦
    isNameChar_iff.mp (h.isNameChar c hc)
  have hverdict := nameVerdict_validateName inUse text
  split
  · rename_i hused
    exact hverdict.unique (.duplicate h.ne_blank h.length_le hchars hused)
  · rename_i hunused
    exact hverdict.unique (.ok h.ne_blank h.length_le hchars hunused)

theorem validateName_eq_ok (h : validateName inUse text = .ok name) :
    name = Text.trim text ∧ comparisonName name ∉ inUse := by
  have hname := isName_of_validateName h
  have hself : comparisonName name = Text.toLower name := by rw [comparisonName, hname.trimmed]
  refine ⟨?_, by rw [hself]; exact hname.unused⟩
  have hverdict := nameVerdict_validateName inUse text
  rw [h] at hverdict
  cases hverdict with
  | ok => rfl

/-! ## One text after the other -/

/-- The names that are accepted when texts are proposed in order, beside the labels there are. -/
def accepted (labels : List String) : List String → List String
  | [] => []
  | text :: texts =>
    match validateName (namesInUse labels) text with
    | .ok name => name :: accepted (labels ++ [name]) texts
    | .error _ => accepted labels texts

theorem accepted_cons_ok (h : validateName (namesInUse labels) text = .ok name)
    (texts : List String) :
    accepted labels (text :: texts) = name :: accepted (labels ++ [name]) texts := by
  rw [accepted, h]

theorem accepted_cons_error {fault : NameFault}
    (h : validateName (namesInUse labels) text = .error fault) (texts : List String) :
    accepted labels (text :: texts) = accepted labels texts := by
  rw [accepted, h]

/-- Later texts are checked against the labels of before and the names accepted since. -/
@[simp] theorem accepted_append (labels texts later : List String) :
    accepted labels (texts ++ later) =
      accepted labels texts ++ accepted (labels ++ accepted labels texts) later := by
  induction texts generalizing labels with
  | nil => rw [List.nil_append, accepted, List.nil_append, List.append_nil]
  | cons text texts ih =>
    rw [List.cons_append]
    cases hname : validateName (namesInUse labels) text with
    | ok name =>
      rw [accepted_cons_ok hname, accepted_cons_ok hname, ih, List.cons_append, List.append_assoc,
        List.singleton_append]
    | error fault => rw [accepted_cons_error hname, accepted_cons_error hname, ih]

theorem mem_namesInUse_of_mem {label : String} (h : label ∈ labels) :
    comparisonName label ∈ namesInUse labels := List.mem_map_of_mem h

/-- **An accepted name** is trimmed, so it is compared by its lowercase. -/
theorem toLower_accepted (h : name ∈ accepted labels texts) :
    Text.toLower name = comparisonName name := by
  induction texts generalizing labels with
  | nil => cases h
  | cons text texts ih =>
    cases hname : validateName (namesInUse labels) text with
    | ok first =>
      rw [accepted_cons_ok hname, List.mem_cons] at h
      rcases h with rfl | h
      · rw [comparisonName, (isName_of_validateName hname).trimmed]
      · exact ih h
    | error fault =>
      rw [accepted_cons_error hname] at h
      exact ih h

/-- **What is accepted** differs from every label that there is, whatever was accepted before it. -/
theorem comparisonName_accepted (h : name ∈ accepted labels texts) :
    comparisonName name ∉ namesInUse labels := by
  induction texts generalizing labels with
  | nil => cases h
  | cons text texts ih =>
    cases hname : validateName (namesInUse labels) text with
    | ok first =>
      rw [accepted_cons_ok hname, List.mem_cons] at h
      rcases h with rfl | h
      · exact (validateName_eq_ok hname).2
      · -- the labels of later are those of before and one more
        have hlater := ih h
        rw [namesInUse, List.map_append, List.mem_append, not_or] at hlater
        exact hlater.1
    | error fault =>
      rw [accepted_cons_error hname] at h
      exact ih h

theorem nodup_accepted (labels texts : List String) :
    ((accepted labels texts).map comparisonName).Nodup := by
  induction texts generalizing labels with
  | nil => exact List.nodup_nil
  | cons text texts ih =>
    cases hname : validateName (namesInUse labels) text with
    | ok first =>
      rw [accepted_cons_ok hname, List.map_cons, List.nodup_cons]
      refine ⟨?_, ih (labels ++ [first])⟩
      intro hmem
      obtain ⟨name, hlater, hsame⟩ := List.mem_map.mp hmem
      apply comparisonName_accepted hlater
      rw [hsame]
      exact mem_namesInUse_of_mem (List.mem_append_right labels List.mem_cons_self)
    | error fault =>
      rw [accepted_cons_error hname]
      exact ih labels

/-! ## Any number of names -/

/-- What holds of the names that are accepted beside labels. -/
structure Distinct (labels texts : List String) : Prop where
  /-- In lowercase no two of them are the same. -/
  distinct : ((accepted labels texts).map Text.toLower).Nodup
  /-- In lowercase none is the same as a label, trimmed and in lowercase. -/
  fresh : ∀ name ∈ accepted labels texts, ∀ label ∈ labels,
    Text.toLower name ≠ comparisonName label
  /-- From then on, whatever else is accepted, a proper text that is compared like one of them or
  like a label is refused as a duplicate. -/
  refused : ∀ later text label, label ∈ labels ++ accepted labels texts → IsProper text →
    comparisonName text = comparisonName label →
    validateName (namesInUse (labels ++ accepted labels (texts ++ later))) text = .error .duplicate

/-- **Names stay different** over any run of namings, whatever the case of their letters. -/
theorem accepted_distinct (labels texts : List String) : Distinct labels texts where
  distinct := by
    have hsame : (accepted labels texts).map Text.toLower =
        (accepted labels texts).map comparisonName :=
      List.map_congr_left fun _ hname ↦ toLower_accepted hname
    rw [hsame]
    exact nodup_accepted labels texts
  fresh := by
    intro name hname label hlabel hsame
    apply comparisonName_accepted hname
    rw [← toLower_accepted hname, hsame]
    exact mem_namesInUse_of_mem hlabel
  refused := by
    intro later text label hlabel hproper hsame
    have hkept : label ∈ labels ++ accepted labels (texts ++ later) := by
      rw [accepted_append, ← List.append_assoc]
      exact List.mem_append_left _ hlabel
    rw [validateName_of_isProper hproper, hsame, if_pos (mem_namesInUse_of_mem hkept)]

/-- Beside one label two of three texts are accepted, and then one that differs from the first of
them in its case and its blanks is refused. -/
theorem accepted_distinct_two :
    accepted ["Laptop"] ["Phone", " laptop", "Tablet"] = ["Phone", "Tablet"] ∧
      validateName (namesInUse ["Laptop", "Phone", "Tablet"]) "PHONE " = .error .duplicate := by
  have haccepted : accepted ["Laptop"] ["Phone", " laptop", "Tablet"] = ["Phone", "Tablet"] := by
    decide +kernel
  have hchars : (Text.trim "PHONE ").toList.all isNameChar = true := by decide +kernel
  have hproper : IsProper "PHONE " :=
    ⟨by decide +kernel, by decide +kernel, List.all_eq_true.mp hchars⟩
  have hsame : comparisonName "PHONE " = comparisonName "Phone" := by decide +kernel
  have hlabel : "Phone" ∈ ["Laptop"] ++ accepted ["Laptop"] ["Phone", " laptop", "Tablet"] := by
    rw [haccepted]
    decide
  have hrefused := (accepted_distinct _ _).refused [] _ _ hlabel hproper hsame
  rw [List.append_nil, haccepted] at hrefused
  exact ⟨haccepted, hrefused⟩

end PasskeyCeremony
