import PasskeyCeremony.Page.Markup

/-!
# The confirmation modal

The markup of a question with one button to confirm and one to cancel. The modal and its buttons are
identified by the number of the modal; heading, message and the label of the button are escaped.
-/

namespace PasskeyCeremony

/-- What a confirmation modal asks. -/
structure Question where
  /-- The heading. -/
  heading : String
  /-- The question itself. -/
  message : String
  /-- The label of the button that confirms. -/
  action : String
  deriving DecidableEq, Repr

namespace Page.Modal

def identifier (number : Nat) : String := "confirmation-modal-" ++ toString number

def markup (number : Nat) (q : Question) : List Char :=
  let name := Markup.escape (identifier number).toList
  "<div id=\"".toList ++ name ++
  "\" class=\"modal\">\n  <div class=\"modal-content\">\n    <h4>".toList ++
  Markup.escape q.heading.toList ++
  "</h4>\n    <p>".toList ++
  Markup.escape q.message.toList ++
  "</p>\n  </div>\n  <div class=\"modal-footer\">\n    ".toList ++
  "<a href=\"#!\" class=\"modal-close waves-effect waves-red btn-flat\" id=\"".toList ++ name ++
  "-cancel\">Cancel</a>\n    ".toList ++
  "<a href=\"#!\" class=\"modal-close waves-effect waves-green btn\" id=\"".toList ++ name ++
  "-confirm\">".toList ++
  Markup.escape q.action.toList ++
  "</a>\n  </div>\n</div>".toList

def html (number : Nat) (q : Question) : String := String.ofList (markup number q)

end Page.Modal

end PasskeyCeremony
