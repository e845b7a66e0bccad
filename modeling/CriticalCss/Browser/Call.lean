import CriticalCss.Activity
import CriticalCss.Browser.Machine
import CriticalCss.Document.Snapshot
import CriticalCss.Event

/-!
# Calls to a browser

What is asked of a browser and of the page in it, in the order in which it is asked.
-/

namespace CriticalCss.Browser

/-- A handle to one property of an array that lives in a page: an element with what measuring it
gives, or something else. -/
structure Handle where
  selector : String
  key : String
  element : Option Box
  /-- Whether the handle is gone by the time it is released. -/
  lost : Bool

/-- The name of a handle. -/
def Handle.name (handle : Handle) : String := s!"{handle.selector}#{handle.key}"

/-- What becomes of a request. -/
inductive RequestOutcome where
  | refused
  | continued
  | unfiltered
  deriving DecidableEq

/-- What a page reports by itself. -/
inductive Subject where
  | console
  | pageError
  | requestFailed
  deriving DecidableEq

/-- A call. -/
inductive Call where
  | start
  | launch (headless : Value)
  | install
  | newContext (settings : Settings)
  | newPage
  | listen (subject : Subject)
  | filterRequests
  | visit (url : String) (waitUntil timeout : Value)
  | request (url : String) (outcome : RequestOutcome)
  | evaluate (selector : String)
  | properties (selector : String)
  | releaseArray (selector : String)
  | measureTop (handle : Handle) (clear : String)
  | measurePosition (handle : Handle)
  | release (handle : Handle)
  | close (part : Part)

/-- The arguments that the browser is launched with: quiet and by itself. -/
def launchArguments : List String :=
  ["--disable-extensions", "--disable-plugins", "--disable-dev-shm-usage",
    "--disable-background-networking", "--disable-sync", "--no-first-run",
    "--deny-permission-prompts", "--disable-breakpad", "--no-pings", "--disable-component-update",
    "--noerrdialogs", "--hide-scrollbars"]

/-- One thing that happens while a browser is used. -/
inductive Step where
  | called (call : Call)
  | reported (event : Event)
  | waited (milliseconds : Number)

namespace Step

/-- The call that a step is. -/
def call? : Step → Option Call
  | called call => some call
  | _ => none

/-- The event that a step reports. -/
def event? : Step → Option Event
  | reported event => some event
  | _ => none

end Step

/-- Makes a call. -/
def call {σ : Type} (request : Call) : Activity σ Step Unit := Activity.take (.called request)

/-- Reports an event. -/
def report {σ : Type} (event : Event) : Activity σ Step Unit := Activity.take (.reported event)

end CriticalCss.Browser
