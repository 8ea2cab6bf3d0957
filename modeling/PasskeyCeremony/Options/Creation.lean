import PasskeyCeremony.Json.Reader

/-!
# Creation options

The bundle with which a server asks for a credential to be created. Some browsers refuse a null at
`authenticatorSelection.authenticatorAttachment`, though leaving the member out means the same, so
that one member is left out where it is null. Every other null is kept.
-/

namespace PasskeyCeremony

/-- Options for creating a credential: any object. -/
structure CreationOptions where
  /-- The members of the bundle. -/
  members : List (String × Json)
  deriving DecidableEq

namespace CreationOptions

/-- The key of the criteria for the authenticator. -/
def selectionKey : String := "authenticatorSelection"

/-- The key, among the criteria, of the kind of attachment. -/
def attachmentKey : String := "authenticatorAttachment"

def parse? (text : List Char) : Option CreationOptions :=
  match Json.parse? text with
  | some (.object ms) => some ⟨ms⟩
  | _ => none

/-- Any member of the bundle. -/
def get? (o : CreationOptions) (key : String) : Option Json := Members.get? o.members key

/-- The attachment is there and null. -/
def hasNullAttachment (o : CreationOptions) : Bool :=
  match o.get? selectionKey with
  | some (.object selection) => Members.get? selection attachmentKey == some .null
  | _ => false

/-- Leave out the attachment of an object. -/
def withoutAttachment : Json → Json
  | .object selection => .object (Members.erase selection attachmentKey)
  | v => v

/-- Leave out a null attachment. -/
def dropNullAttachment (o : CreationOptions) : CreationOptions :=
  if o.hasNullAttachment then ⟨Members.modify o.members selectionKey withoutAttachment⟩ else o

def toJson (o : CreationOptions) : Json := .object o.members

end CreationOptions

end PasskeyCeremony
