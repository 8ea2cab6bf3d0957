import PasskeyCeremony.Page.Markup

/-!
# Forms

A form of hidden fields whose submission leaves the page. The fields keep their order, and a name
may occur more than once; looking a name up gives its first value. In the markup the action and all
names and values are escaped.
-/

namespace PasskeyCeremony

/-- A form of hidden fields. -/
structure Form where
  /-- Where the form is sent. -/
  action : String
  /-- The fields, in order. -/
  fields : List (String × String)
  deriving DecidableEq, Repr

namespace Form

/-- The first value under a name. -/
def value? (f : Form) (name : String) : Option String := f.fields.lookup name

def fieldMarkup (field : String × String) : List Char :=
  "\n  <input type=\"hidden\" name=\"".toList ++ Page.Markup.escape field.1.toList ++
    "\" value=\"".toList ++ Page.Markup.escape field.2.toList ++ "\">".toList

def markup (f : Form) : List Char :=
  "<form method=\"post\" action=\"".toList ++ Page.Markup.escape f.action.toList ++
    "\">".toList ++ f.fields.flatMap fieldMarkup ++ "\n</form>".toList

def html (f : Form) : String := String.ofList f.markup

end Form

end PasskeyCeremony
