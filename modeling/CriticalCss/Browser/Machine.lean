import CriticalCss.Browser.Settings

/-!
# The machine that a browser runs on

What comes of starting and installing the browser, and of closing its parts.  Attempts to launch and
to install it may end differently from one time to the next; everything else stays the same.
-/

namespace CriticalCss.Browser

/-- The parts of a session, each of which needs the ones before it. -/
inductive Part where
  | driver
  | browser
  | context
  | page
  deriving DecidableEq

/-- How an attempt to install the browser ends. -/
inductive Installation where
  /-- The installer ends after some seconds with a code, and leaves bytes of complaint. -/
  | finished (seconds : Number) (code : Int) (complaint : List Nat)
  | notStarted

/-- What comes of starting and closing the parts of a session; a fault is given by its report. -/
structure Machine where
  driverFault : Option String
  contextFault : Option String
  pageFault : Option String
  /-- The parts that report a fault when they are closed. -/
  unclosable : List Part

/-- The parts that are open. -/
structure Opened where
  driver : Bool
  browser : Bool
  context : Bool
  page : Bool
  deriving DecidableEq

namespace Opened

/-- Nothing is open. -/
def nothing : Opened := ⟨false, false, false, false⟩

/-- Whether a part is open. -/
def has (opened : Opened) : Part → Bool
  | .driver => opened.driver
  | .browser => opened.browser
  | .context => opened.context
  | .page => opened.page

/-- Marks a part as open or closed. -/
def set (opened : Opened) (isOpen : Bool) : Part → Opened
  | .driver => { opened with driver := isOpen }
  | .browser => { opened with browser := isOpen }
  | .context => { opened with context := isOpen }
  | .page => { opened with page := isOpen }

@[simp] theorem has_set_self (opened : Opened) (isOpen : Bool) (part : Part) :
    (opened.set isOpen part).has part = isOpen := by
  cases part <;> rfl

@[simp] theorem has_set_of_ne (opened : Opened) (isOpen : Bool) {part other : Part}
    (different : other ≠ part) : (opened.set isOpen part).has other = opened.has other := by
  cases part <;> cases other <;> simp_all [set, has]

end Opened

/-- The last resource that failed to load. -/
structure ResourceFailure where
  url : String
  reason : String
  deriving DecidableEq

/-- What sessions change: what the machine has still in store, and where the present session
stands. -/
structure State where
  /-- What comes of the next attempts to launch the browser, a fault by its report; further attempts
  succeed. -/
  launches : List (Option String)
  /-- What comes of the next attempts to install the browser; further attempts succeed at once. -/
  installations : List Installation
  /-- Whether an installation has been attempted. -/
  installationTried : Bool
  /-- Whether requests pass the rule that refuses scripts. -/
  filtersRequests : Bool
  opened : Opened
  lastFailure : Option ResourceFailure
  /-- Whether the page opened last belongs to the present session. -/
  hearsPage : Bool

namespace State

/-- Before any session. -/
def initial (launches : List (Option String)) (installations : List Installation) : State :=
  ⟨launches, installations, false, false, .nothing, none, false⟩

/-- Puts a new session in the place of the present one. -/
def renew (state : State) : State :=
  { state with opened := .nothing, lastFailure := none, hearsPage := false }

/-- Marks a part as open. -/
def opening (part : Part) (state : State) : State :=
  { state with opened := state.opened.set true part }

/-- Marks a part as closed. -/
def closing (part : Part) (state : State) : State :=
  { state with opened := state.opened.set false part }

end State

end CriticalCss.Browser
