/-!
# Signals for aborting

One controller hands out any number of signals, and a signal may be cloned. All of them show the
same thing: whether the controller has aborted. That happens once and stays, so whoever waits for it
waits no longer.
-/

namespace PasskeyCeremony

/-- A controller and the signals it stands behind. -/
structure AbortController where
  /-- It has aborted. -/
  aborted : Bool
  /-- How many signals there are. -/
  signals : Nat
  deriving DecidableEq, Repr

namespace AbortController

/-- A controller without signals that has not aborted. -/
def new : AbortController := ⟨false, 0⟩

/-- What can be done with a controller. -/
inductive Use where
  /-- Hand out a signal. -/
  | signal
  /-- Clone the last signal, if there is one. -/
  | clone
  /-- Abort. -/
  | abort
  deriving DecidableEq, Repr

/-- The controller after a use. -/
def use (c : AbortController) : Use → AbortController
  | .signal => { c with signals := c.signals + 1 }
  | .clone => if c.signals = 0 then c else { c with signals := c.signals + 1 }
  | .abort => { c with aborted := true }

/-- What each signal shows, in the order in which they came to be. -/
def shown (c : AbortController) : List Bool := List.replicate c.signals c.aborted

/-- The controller after each of several uses. -/
def states (c : AbortController) : List Use → List AbortController
  | [] => []
  | u :: rest => c.use u :: (c.use u).states rest

end AbortController

end PasskeyCeremony
