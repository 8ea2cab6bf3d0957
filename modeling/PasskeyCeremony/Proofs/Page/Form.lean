import PasskeyCeremony.Page.Form
import PasskeyCeremony.Proofs.Page.Markup

/-!
# Forms are read back

The markup of a form is its fixed text with an escaped text in every hole. It is read without
knowledge of the form (`read?`): after the lead the action is what comes before the fixed text that
follows an action, and so on for the fields, until the closing tag stands in the place of a field.
Whatever the texts are, this gives the form back, fields in order and repeated ones kept
(`read?_markup`).

The angle brackets and quotes in the markup are those of the fixed text, so they can be counted
without the form being read.
-/

namespace PasskeyCeremony.Form

open Page.Markup

/-! ## Fixed texts -/

/-- What stands before the action. -/
def lead : List Char := "<form method=\"post\" action=\"".toList

def afterAction : List Char := "\">".toList

/-- What stands before the name of a field. -/
def fieldLead : List Char := "\n  <input type=\"hidden\" name=\"".toList

def afterName : List Char := "\" value=\"".toList

def afterValue : List Char := "\">".toList

def closing : List Char := "\n</form>".toList

theorem markup_eq (f : Form) :
    f.markup = lead ++ (escape f.action.toList ++
      (afterAction ++ (f.fields.flatMap fieldMarkup ++ closing))) := by
  have hmarkup : f.markup = lead ++ escape f.action.toList ++ afterAction ++
      f.fields.flatMap fieldMarkup ++ closing := rfl
  simp only [hmarkup, List.append_assoc]

theorem fieldMarkup_append (field : String × String) (rest : List Char) :
    fieldMarkup field ++ rest = fieldLead ++ (escape field.1.toList ++
      (afterName ++ (escape field.2.toList ++ (afterValue ++ rest)))) := by
  have hmarkup : fieldMarkup field = fieldLead ++ escape field.1.toList ++ afterName ++
      escape field.2.toList ++ afterValue := rfl
  simp only [hmarkup, List.append_assoc]

/-! ## Reading -/

/-- Read fields up to the closing tag, less than `n`. -/
def readFields? : Nat → List Char → Option (List (String × String))
  | 0, _ => none
  | n + 1, cs =>
    match dropFixed? fieldLead cs with
    | none => if cs = closing then some [] else none
    | some rest => do
      let (name, rest) ← readHole? afterName rest
      let (value, rest) ← readHole? afterValue rest
      let fields ← readFields? n rest
      return (name, value) :: fields

def read? (cs : List Char) : Option Form := do
  let rest ← dropFixed? lead cs
  let (action, rest) ← readHole? afterAction rest
  let fields ← readFields? rest.length rest
  return ⟨action, fields⟩

theorem readFields?_flatMap {fields : List (String × String)} {n : Nat} (h : fields.length < n) :
    readFields? n (fields.flatMap fieldMarkup ++ closing) = some fields := by
  induction fields generalizing n with
  | nil =>
    obtain ⟨n, rfl⟩ := Nat.exists_eq_add_one.mpr h
    have hdone : dropFixed? fieldLead closing = none := by decide
    rw [List.flatMap_nil, List.nil_append, readFields?, hdone]
    exact if_pos rfl
  | cons field fields ih =>
    obtain ⟨n, rfl⟩ := Nat.exists_eq_add_one.mpr (Nat.zero_lt_of_lt h)
    have hname := readHole?_escape quote_mem_marks (show '"' ∈ afterName by decide)
    have hvalue := readHole?_escape quote_mem_marks (show '"' ∈ afterValue by decide)
    rw [List.flatMap_cons, List.append_assoc, fieldMarkup_append, readFields?, dropFixed?_append]
    simp [hname, hvalue, ih (Nat.lt_of_succ_lt_succ h)]

/-- There are fewer fields than characters, so the count of these does not end the reading. -/
theorem length_lt_length_fields (fields : List (String × String)) :
    fields.length < (fields.flatMap fieldMarkup ++ closing).length := by
  induction fields with
  | nil => decide
  | cons field fields ih =>
    have hlead : 0 < fieldLead.length := by decide
    rw [List.flatMap_cons, List.append_assoc, fieldMarkup_append]
    simp only [List.length_append, List.length_cons] at ih ⊢
    omega

/-- **The markup of a form is read back.** -/
theorem read?_markup (f : Form) : read? f.markup = some f := by
  have haction := readHole?_escape quote_mem_marks (show '"' ∈ afterAction by decide)
  rw [read?, markup_eq, dropFixed?_append]
  simp only [Option.bind_eq_bind, Option.bind_some, haction,
    readFields?_flatMap (length_lt_length_fields f.fields), Option.pure_def]

/-! ## Counting -/

theorem count_fieldMarkup {mark : Char} (hmark : mark ∈ marks) (field : String × String) :
    (fieldMarkup field).count mark =
      fieldLead.count mark + afterName.count mark + afterValue.count mark := by
  have hfield := fieldMarkup_append field []
  rw [List.append_nil] at hfield
  rw [hfield]
  simp only [List.count_append, count_escape hmark, List.count_nil]
  omega

theorem count_markup {mark : Char} (hmark : mark ∈ marks) (f : Form) :
    f.markup.count mark = lead.count mark + afterAction.count mark + closing.count mark +
      (fieldLead.count mark + afterName.count mark + afterValue.count mark) * f.fields.length := by
  have hfields : (f.fields.flatMap fieldMarkup).count mark =
      (fieldLead.count mark + afterName.count mark + afterValue.count mark) * f.fields.length := by
    induction f.fields with
    | nil => rfl
    | cons field fields ih =>
      rw [List.flatMap_cons, List.count_append, ih, count_fieldMarkup hmark, List.length_cons,
        Nat.mul_succ, Nat.add_comm]
  rw [markup_eq]
  simp only [List.count_append, count_escape hmark, hfields]
  omega

/-- **The markup of a form keeps to its fixed text**: the form can be read back from it, so that
different forms have different markup, and it holds the angle brackets and the quotes of the fixed
text and no others. -/
theorem html_faithful :
    (∀ f : Form, read? f.html.toList = some f) ∧ Function.Injective html ∧
      ∀ f : Form, f.html.toList.count '<' = 2 + f.fields.length ∧
        f.html.toList.count '"' = 4 + 6 * f.fields.length := by
  have hread : ∀ f : Form, read? f.html.toList = some f := by
    intro f
    rw [html, String.toList_ofList, read?_markup]
  refine ⟨hread, ?_, ?_⟩
  · intro f g hfg
    apply Option.some.inj
    rw [← hread f, ← hread g, hfg]
  · intro f
    have hbrackets := count_markup lt_mem_marks f
    have hquotes := count_markup quote_mem_marks f
    rw [html, String.toList_ofList, hbrackets, hquotes]
    have hone : fieldLead.count '<' + afterName.count '<' + afterValue.count '<' = 1 := by decide
    rw [hone, Nat.one_mul]
    exact ⟨rfl, rfl⟩

end PasskeyCeremony.Form
