import CriticalCss.Browser.Call
import CriticalCss.Text.Search
import CriticalCss.Url

/-!
# Browser sessions

A session opens a driver, a browser, a context and a page, one inside the other, opens addresses in
the page, and closes everything again.  A browser that is missing is installed, but only once.
-/

namespace CriticalCss.Browser

/-- Something done in a session. -/
abbrev Deed := Activity State Step

/-! ## Starting and stopping -/

/-- Closes a part if it is open; it counts as closed even if that fails. -/
def closePart (machine : Machine) (part : Part) : Deed Unit := do
  if ← Activity.inspect fun state => state.opened.has part then
    call (.close part)
    Activity.update (State.closing part)
    if machine.unclosable.contains part then Activity.fail (.browserCall "Target closed")

/-- Closes whatever is open, innermost first, regardless of faults. -/
def stop (machine : Machine) : Tidying State Step := Activity.heedless do
  let _ ← (closePart machine .page).attempt
  let _ ← (closePart machine .context).attempt
  let _ ← (closePart machine .browser).attempt
  let _ ← (closePart machine .driver).attempt
  report .sessionStopped

/-- Ends with a fault if there is a report of one. -/
def succeedUnless (fault : Option String) : Deed Unit :=
  match fault with
  | none => pure ()
  | some text => Activity.fail (.browserCall text)

/-- The seconds that an installation may take. -/
def installationLimit : Number := .whole 300

/-- How much of an installer's complaint is reported. -/
def complaintLimit : Nat := 500

/-- Installs the browser, unless that has been attempted before, and says whether it succeeded. -/
def install : Deed Bool := do
  if ← Activity.inspect State.installationTried then return false
  Activity.update fun state => { state with installationTried := true }
  report .installing
  call .install
  let installation ← Activity.inspect fun state =>
    state.installations.head?.getD (.finished (.whole 0) 0 [])
  Activity.update fun state => { state with installations := state.installations.tail }
  match installation with
  | .notStarted =>
    report .installNotStarted
    return false
  | .finished seconds code complaint =>
    if seconds.less installationLimit then
      if code = 0 then
        report .installed
        return true
      else
        report (.installRefused code
          (String.ofList ((Text.decodeLossy complaint).take complaintLimit)))
        return false
    else
      report .installTimedOut
      return false

/-- Attempts to launch the browser. -/
def attemptLaunch (settings : Settings) : Deed Unit := do
  call (.launch settings.headless)
  let fault ← Activity.inspect fun state => state.launches.head?.join
  Activity.update fun state => { state with launches := state.launches.tail }
  succeedUnless fault
  Activity.update (State.opening .browser)

/-- Whether a report says that there is no browser. -/
def saysMissing (report : String) : Bool := Text.holds report "executable doesn't exist"

/-- Launches the browser; if it is missing, it is installed first. -/
def launch (settings : Settings) : Deed Unit :=
  (attemptLaunch settings).observe fun
    | .error (.browserCall text) =>
      if saysMissing text then do
        if ← install then attemptLaunch settings else Activity.fail .installFailed
      else Activity.fail (.launchFailed text)
    | outcome => .ofOutcome outcome

/-- Opens a context and a page in it, and starts to listen. -/
def openPage (settings : Settings) (machine : Machine) : Deed Unit := do
  call (.newContext settings)
  succeedUnless machine.contextFault
  Activity.update (State.opening .context)
  call .newPage
  succeedUnless machine.pageFault
  Activity.update fun state => { state.opening .page with hearsPage := true }
  call (.listen .console)
  call (.listen .pageError)
  call (.listen .requestFailed)
  if settings.blockScripts.isTruthy then
    call .filterRequests
    Activity.update fun state => { state with filtersRequests := true }

/-- Starts a session; if that fails on the way, what has been opened is closed. -/
def start (settings : Settings) (machine : Machine) : Deed Unit := do
  call .start
  succeedUnless machine.driverFault
  Activity.update (State.opening .driver)
  Activity.undoing
    (do
      launch settings
      openPage settings machine)
    (stop machine)
  report (.sessionStarted settings.viewportWidth settings.viewportHeight settings.blockScripts)

/-- Does something in a session that is started before and stopped afterwards. -/
def inSession {α : Type} (settings : Settings) (machine : Machine) (deed : Deed α) : Deed α := do
  start settings machine
  deed.ensuring (stop machine)

/-- Does something in a session of its own, from which the present one hears nothing. -/
def aside {α : Type} (deed : Deed α) : Deed α := fun state =>
  let inner := deed state.renew
  { inner with
    state := { inner.state with
      opened := state.opened
      lastFailure := state.lastFailure
      hearsPage := state.hearsPage && !inner.state.hearsPage } }

/-- Makes sure that a part is open. -/
def require (part : Part) (otherwise : Fault) : Deed Unit := do
  if ← Activity.inspect fun state => state.opened.has part then pure ()
  else Activity.fail otherwise

/-- Makes sure that there is a page. -/
def requirePage : Deed Unit := require .page .noPage

/-- Makes sure that there is a context. -/
def requireContext : Deed Unit := require .context .noContext

/-! ## What a page does by itself -/

/-- Something that happens in a page. -/
inductive PageEvent where
  | console (text : String)
  | pageError (text : String)
  | requestFailed (url : String) (reason : Option String)

/-- What marks a message of a page as meant for the log. -/
def messageMark : String := "debug: "

/-- The reason of a request that the session itself has refused. -/
def refusalReason : String := "net::ERR_BLOCKED_BY_CLIENT"

/-- The reason for which a request failed, even if none is given. -/
def reasonOf (reason : Option String) : String :=
  match reason with
  | none => "unknown error"
  | some text => if text.isEmpty then "unknown error" else text

/-- Hears an event of the session's own page. -/
def hear (event : PageEvent) : Deed Unit :=
  match event with
  | .console text =>
    if messageMark.toList.isPrefixOf text.toList then
      report (.pageMessage (String.ofList (text.toList.drop messageMark.length)))
    else pure ()
  | .pageError text => report (.pageError text)
  | .requestFailed url reason =>
    if reasonOf reason = refusalReason then pure ()
    else Activity.update fun state => { state with lastFailure := some ⟨url, reasonOf reason⟩ }

/-- Hears an event of the page opened last.  It may belong to another session, which then is the one
that remembers what failed. -/
def overhear (event : PageEvent) : Deed Unit := do
  match event, ← Activity.inspect State.hearsPage with
  | .requestFailed _ _, false => pure ()
  | event, _ => hear event

/-- Decides on a request of the page. -/
def decide (url : String) : Deed RequestOutcome := do
  if ← Activity.inspect State.filtersRequests then
    if Url.isScript url then
      report (.scriptBlocked url)
      return .refused
    else return .continued
  else return .unfiltered

/-- A request that the page makes while it is opened. -/
def makeRequest (url : String) : Deed Unit := do
  let outcome ← decide url
  call (.request url outcome)

/-! ## Opening an address -/

/-- How opening an address ends. -/
inductive Arrival where
  | interrupted
  | failed (text : String)
  | arrived (status : Option Int)

/-- What happens while an address is opened. -/
structure Visit where
  events : List PageEvent
  requests : List String
  arrival : Arrival

/-- Opens an address in the page. -/
def visit (settings : Settings) (url : String) (course : Visit) : Deed (Option Int) := do
  call (.visit url settings.waitUntil settings.timeout)
  Activity.each hear course.events
  Activity.each makeRequest course.requests
  match course.arrival with
  | .interrupted => Activity.fail .interrupted
  | .failed text => Activity.fail (.browserCall text)
  | .arrived status => return status

/-- The fault of an address that could not be opened: the last resource that failed is to blame, or
else the first line of the report. -/
def navigationFault (url report : String) (failure : Option ResourceFailure) : Fault :=
  match failure with
  | some failure => .navigationFailed url failure.reason failure.url
  | none =>
    match Text.firstLine? report with
    | some line => .navigationFailed url line ""
    | none => .emptyReport

/-- Opens an address and gives the status of the answer, if there is one. -/
def navigate (settings : Settings) (url : String) (course : Visit) : Deed (Option Int) := do
  let target := Url.quote url
  Activity.update fun state => { state with lastFailure := none }
  requirePage
  (visit settings target course).observe fun
    | .ok status => do
      report (.pageOpened target status)
      return status
    | .error (.browserCall text) => do
      let failure ← Activity.inspect State.lastFailure
      Activity.fail (navigationFault target text failure)
    | .error fault => Activity.fail fault

end CriticalCss.Browser
