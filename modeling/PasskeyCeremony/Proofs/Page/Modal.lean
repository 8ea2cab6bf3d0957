import PasskeyCeremony.Ceremony.Outcome
import PasskeyCeremony.Proofs.Confirmation.Visits
import PasskeyCeremony.Proofs.Page.Markup
import PasskeyCeremony.Proofs.Text.Decimal

/-!
# Modals and toasts are read back

The markup of a confirmation modal has six holes, three of them for the identifier. Two of these
three are followed by a hyphen, which is a character of the identifier as well, so it matters that
holes are read up to a fixed text that holds a mark and not up to the first character of it.

A question stands in running text only. So whatever it says, the tags are those of the modal with
the same number and an empty question (`tags_markup`), and number and question can be read back
(`read?_markup`). Toasts are running text alone.
-/

namespace PasskeyCeremony.Page.Modal

open Markup

/-! ## Fixed texts -/

/-- What stands before the identifier. -/
def lead : List Char := "<div id=\"".toList

/-- What stands before the heading. -/
def beforeHeading : List Char :=
  "\" class=\"modal\">\n  <div class=\"modal-content\">\n    <h4>".toList

/-- What stands before the message. -/
def beforeMessage : List Char := "</h4>\n    <p>".toList

def afterMessage : List Char := "</p>\n  </div>\n  <div class=\"modal-footer\">\n    ".toList

/-- What stands before the identifier of the button that cancels. -/
def cancelLead : List Char :=
  "<a href=\"#!\" class=\"modal-close waves-effect waves-red btn-flat\" id=\"".toList

def afterCancel : List Char := "-cancel\">Cancel</a>\n    ".toList

/-- What stands before the identifier of the button that confirms. -/
def confirmLead : List Char :=
  "<a href=\"#!\" class=\"modal-close waves-effect waves-green btn\" id=\"".toList

/-- What stands before the label of the button that confirms. -/
def beforeAction : List Char := "-confirm\">".toList

def closing : List Char := "</a>\n  </div>\n</div>".toList

theorem markup_eq (number : Nat) (q : Question) :
    markup number q = lead ++ escape (identifier number).toList ++ beforeHeading ++
      escape q.heading.toList ++ beforeMessage ++ escape q.message.toList ++ afterMessage ++
      cancelLead ++ escape (identifier number).toList ++ afterCancel ++ confirmLead ++
      escape (identifier number).toList ++ beforeAction ++ escape q.action.toList ++ closing := rfl

/-! ## Reading -/

/-- What an identifier begins with. -/
def identifierLead : List Char := "confirmation-modal-".toList

/-- The number in an identifier. -/
def numberOf? (name : String) : Option Nat :=
  (dropFixed? identifierLead name.toList).map Text.digitsValue

/-- Read a modal: its number and its question. -/
def read? (cs : List Char) : Option (Nat × Question) := do
  let rest ← dropFixed? lead cs
  let (name, rest) ← readHole? beforeHeading rest
  let (heading, rest) ← readHole? beforeMessage rest
  let (message, rest) ← readHole? (afterMessage ++ cancelLead) rest
  let (cancel, rest) ← readHole? (afterCancel ++ confirmLead) rest
  let (confirm, rest) ← readHole? beforeAction rest
  let (action, rest) ← readHole? closing rest
  let number ← numberOf? name
  if cancel = name ∧ confirm = name ∧ rest = [] then some (number, ⟨heading, message, action⟩)
  else none

theorem numberOf?_identifier (number : Nat) : numberOf? (identifier number) = some number := by
  have hidentifier : (identifier number).toList = identifierLead ++ Nat.toDigits 10 number := by
    have happend : (identifier number).toList = identifierLead ++ number.repr.toList :=
      String.toList_append
    rw [happend, Nat.toList_repr]
  rw [numberOf?, hidentifier, dropFixed?_append, Option.map_some, Text.digitsValue_toDigits]

/-- **The markup of a modal is read back.** -/
theorem read?_markup (number : Nat) (q : Question) :
    read? (markup number q) = some (number, q) := by
  have hheading := readHole?_escape quote_mem_marks (show '"' ∈ beforeHeading by decide)
  have hmessage := readHole?_escape lt_mem_marks (show '<' ∈ beforeMessage by decide)
  have hcancel := readHole?_escape lt_mem_marks (show '<' ∈ afterMessage ++ cancelLead by decide)
  have hconfirm := readHole?_escape quote_mem_marks
    (show '"' ∈ afterCancel ++ confirmLead by decide)
  have haction := readHole?_escape quote_mem_marks (show '"' ∈ beforeAction by decide)
  have hclosing := readHole?_escape lt_mem_marks (show '<' ∈ closing by decide)
    q.action []
  simp only [List.append_assoc, List.append_nil] at hcancel hconfirm hclosing
  simp only [read?, markup_eq, List.append_assoc, dropFixed?_append, Option.bind_eq_bind,
    Option.bind_some, hheading, hmessage, hcancel, hconfirm, haction, hclosing,
    numberOf?_identifier, and_self, if_true]

/-! ## Tags -/

/-- The markup before the heading. -/
def opening (number : Nat) : List Char :=
  lead ++ (escape (identifier number).toList ++ beforeHeading)

/-- The markup between the message and the label of the button that confirms. -/
def buttons (number : Nat) : List Char :=
  afterMessage ++ cancelLead ++ (escape (identifier number).toList ++
    (afterCancel ++ confirmLead ++ (escape (identifier number).toList ++ beforeAction)))

theorem foldl_opening (number : Nat) : (opening number).foldl Place.next .text = .text := by
  have hlead : lead.foldl Place.next .text = .value "div id=\"".toList := rfl
  rw [opening, List.foldl_append, List.foldl_append, hlead, foldl_value_escape]
  rfl

theorem foldl_buttons (number : Nat) : (buttons number).foldl Place.next .text = .text := by
  have hmessage : afterMessage.foldl Place.next .text = .text := rfl
  have hcancel : cancelLead.foldl Place.next .text = .value cancelLead.tail := rfl
  have hafter : ∀ seen, afterCancel.foldl Place.next (.value seen) = .text := fun _ ↦ rfl
  have hconfirm : confirmLead.foldl Place.next .text = .value confirmLead.tail := rfl
  simp only [buttons, List.foldl_append, hmessage, hcancel, foldl_value_escape, hafter, hconfirm]
  rfl

/-- **The tags of a modal** are those of its fixed text and of its identifier. -/
theorem tags_markup (number : Nat) (q : Question) :
    tags (markup number q) =
      tags (opening number) ++ (tags beforeMessage ++ (tags (buttons number) ++ tags closing)) := by
  have hmarkup : markup number q = opening number ++ (escape q.heading.toList ++
      (beforeMessage ++ (escape q.message.toList ++
      (buttons number ++ (escape q.action.toList ++ closing))))) := by
    simp only [markup_eq, opening, buttons, List.append_assoc]
  rw [hmarkup, tags_append_escape_append (foldl_opening number),
    tags_append_escape_append (show beforeMessage.foldl Place.next .text = .text from rfl),
    tags_append_escape_append (foldl_buttons number)]

/-! ## What is mounted -/

/-- What the prompt mounts is the modal of the call with the question of the call. -/
theorem eq_html_of_mount {moves : List Confirmation.Move} {h : Confirmation.History}
    (hrun : Confirmation.run .initial moves = some h) {n number : Nat} {text : String}
    (hmount : (n, .mount number text) ∈ h.calls) :
    number = n ∧ ∃ q, (Confirmation.questions moves)[n]? = some q ∧ text = html n q := by
  obtain ⟨visits, hvisits⟩ := Confirmation.visits_run hrun
  rw [hvisits.calls, List.mem_flatMap] at hmount
  obtain ⟨v, hv, htrace⟩ := hmount
  obtain ⟨c, hc, heq⟩ := List.mem_map.mp htrace
  obtain ⟨rfl, rfl⟩ := Prod.mk.inj heq
  have hown : number = v.number ∧ text = html v.number v.question := by
    rw [Confirmation.Visit.calls] at hc
    cases hhold : v.hold <;> simpa [hhold] using hc
  exact ⟨hown.1, v.question, hvisits.question v hv, hown.2⟩

end PasskeyCeremony.Page.Modal

/-! ## Toasts -/

namespace PasskeyCeremony.Toast

open Page.Markup

theorem unescape_html (message : String) (kind : Kind) :
    unescape (Toast.of message kind).html.toList = message.toList := by
  rw [Toast.of, escapeText, String.toList_ofList, unescape_escape]

theorem not_mem_html {mark : Char} (hmark : mark ∈ marks) (message : String) (kind : Kind) :
    mark ∉ (Toast.of message kind).html.toList := by
  rw [Toast.of, escapeText, String.toList_ofList]
  exact not_mem_escape hmark message.toList

/-- Wherever a toast is shown, it is shown once and nothing else is done. -/
theorem actions_notify {σ : Type} (w : Surroundings σ) (s : σ) (t : Toast) :
    ((Attempt.notify t).run.run w s).events.map Event.action = [.notify t] := by
  have hrun : (Attempt.notify t).run = .ask (.notify t) fun u ↦ .done (.ok u) := rfl
  rw [hrun, Program.run]
  rcases w.respond s (.notify t) with ⟨_ | answer, s'⟩ <;> rfl

end PasskeyCeremony.Toast

/-! ## Faithfulness -/

namespace PasskeyCeremony.Page

open Markup Modal

/-- **Modals and toasts keep to their fixed text.** Whatever a question says, the tags of its modal
are those of an empty question, and its number and the question can be read back from the markup, so
that different modals have different markup; and what the prompt mounts is such a modal. A toast is
shown once and keeps its message; what it carries for the page holds no mark and is read as the
message. -/
theorem html_and_toast_faithful :
    (∀ number q, tags (html number q).toList = tags (html number ⟨"", "", ""⟩).toList ∧
      read? (html number q).toList = some (number, q)) ∧
    (∀ number number' q q', html number q = html number' q' ↔ number = number' ∧ q = q') ∧
    (∀ moves h, Confirmation.run .initial moves = some h →
      ∀ n number text, (n, ModalCall.mount number text) ∈ h.calls →
        number = n ∧ ∃ q, (Confirmation.questions moves)[n]? = some q ∧ text = html n q) ∧
    ∀ message kind,
      (∀ (σ : Type) (w : Surroundings σ) (s : σ),
        ((Attempt.notify (.of message kind)).run.run w s).events.map Event.action =
          [.notify (.of message kind)]) ∧
      (Toast.of message kind).message = message ∧
      (∀ mark ∈ marks, mark ∉ (Toast.of message kind).html.toList) ∧
      unescape (Toast.of message kind).html.toList = message.toList := by
  have htoList : ∀ number q, (html number q).toList = markup number q :=
    fun _ _ ↦ String.toList_ofList
  refine ⟨?modal, ?injective, ?mounted, ?toast⟩
  case modal =>
    intro number q
    rw [htoList, htoList, tags_markup, tags_markup]
    exact ⟨rfl, read?_markup number q⟩
  case injective =>
    intro number number' q q'
    refine ⟨?_, fun h ↦ by rw [h.1, h.2]⟩
    intro heq
    have hread := read?_markup number q
    rw [← htoList, heq, htoList, read?_markup, Option.some.injEq, Prod.mk.injEq] at hread
    exact ⟨hread.1.symm, hread.2.symm⟩
  case mounted => exact fun moves h hrun n number text hmount ↦ eq_html_of_mount hrun hmount
  case toast =>
    intro message kind
    exact ⟨fun _ w s ↦ Toast.actions_notify w s _, rfl,
      fun _ hmark ↦ Toast.not_mem_html hmark message kind, Toast.unescape_html message kind⟩

end PasskeyCeremony.Page
