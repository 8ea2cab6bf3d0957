import PasskeyCeremony.Ceremony.Action

/-!
# Kinds of actions

What is promised of a ceremony is said in terms of kinds of actions: what leaves the page, what the
platform is asked, what the user is told.
-/

namespace PasskeyCeremony.Action

def isSubmission : Action → Bool
  | submit _ => true
  | _ => false

def isRedirect : Action → Bool
  | redirect _ => true
  | _ => false

def isToast : Action → Bool
  | notify _ => true
  | _ => false

/-- The action leaves the page or shows something on it. -/
def isPage : Action → Bool
  | submit _ | redirect _ | notify _ => true
  | _ => false

def isPlatform : Action → Bool
  | askConditional | create _ | retrieve _ | await | awaitWithin _ | abandon | abort => true
  | _ => false

/-- The action has to do with a retrieval. -/
def isRetrieval : Action → Bool
  | askConditional | retrieve _ | await | awaitWithin _ | abandon | abort => true
  | _ => false

variable {q : Action}

theorem isPage_of_isPlatform (h : q.isPlatform = true) : q.isPage = false := by
  cases q <;> first | rfl | exact absurd h Bool.false_ne_true

theorem isSubmission_of_isPage (h : q.isPage = false) : q.isSubmission = false := by
  cases q <;> first | rfl | exact absurd h.symm Bool.false_ne_true

theorem isRedirect_of_isPage (h : q.isPage = false) : q.isRedirect = false := by
  cases q <;> first | rfl | exact absurd h.symm Bool.false_ne_true

theorem isToast_of_isPage (h : q.isPage = false) : q.isToast = false := by
  cases q <;> first | rfl | exact absurd h.symm Bool.false_ne_true

end PasskeyCeremony.Action
