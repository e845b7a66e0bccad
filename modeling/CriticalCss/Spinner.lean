/-!
# The spinner

While something takes time, a spinner with a message turns on a terminal.
-/

namespace CriticalCss.Spinner

/-- What happens around the work that a spinner is shown for. -/
inductive Step where
  | consoleOpened
  | shown (message : String)
  | work
  | hidden
  deriving DecidableEq

/-- Whether a spinner is shown: it has to be wanted, and there has to be a terminal. -/
def isShown (wanted terminal : Bool) : Bool := wanted && terminal

/-- The steps around the work, whatever comes of it. -/
def steps (wanted terminal : Bool) (message : String) : List Step :=
  if isShown wanted terminal then [.consoleOpened, .shown message, .work, .hidden] else [.work]

/-- The steps of the spinner itself. -/
def ownSteps (wanted terminal : Bool) (message : String) : List Step :=
  (steps wanted terminal message).filter (· ≠ .work)

end CriticalCss.Spinner
