import CriticalCss.Proofs.Browser.Balance

/-!
# How a browser is launched

A launch that fails is repeated only if its report says that the browser is missing, and only
after the browser has been installed.  A launch that is not repeated fails with a fault of the
browser.  What a second launch reports is passed on as it is.
-/

namespace CriticalCss.Browser

open Activity

/-! ## Attempts -/

/-- An attempt to come by a browser. -/
inductive Attempt where
  | launch
  | install
  deriving DecidableEq

/-- The attempt that a step makes. -/
def Step.attempt? : Step → Option Attempt
  | .called (.launch _) => some .launch
  | .called .install => some .install
  | _ => none

/-- The attempts that steps make, in order. -/
def attempts (steps : List Step) : List Attempt := steps.filterMap Step.attempt?

@[simp] theorem attempts_append (earlier later : List Step) :
    attempts (earlier ++ later) = attempts earlier ++ attempts later :=
  List.filterMap_append

/-- The installer ends in time and with success. -/
def Installation.succeeds : Installation → Bool
  | .finished seconds code _ => seconds.less installationLimit && code == 0
  | .notStarted => false

namespace State

/-- What comes of the next attempt to install the browser. -/
def nextInstallation (state : State) : Installation :=
  state.installations.head?.getD (.finished (.whole 0) 0 [])

/-- The browser can be installed: that has not been attempted before, and it succeeds. -/
def isInstallable (state : State) : Bool :=
  !state.installationTried && state.nextInstallation.succeeds

/-- What the next launch reports if it fails. -/
def firstReport (state : State) : Option String := state.launches.head?.join

/-- What the launch after the next one reports if it fails. -/
def secondReport (state : State) : Option String := state.launches.tail.head?.join

/-- A launch is repeated: the first attempt reports that the browser is missing, and the browser can
be installed. -/
def isRelaunched (state : State) : Bool :=
  state.firstReport.any saysMissing && state.isInstallable

end State

variable {machine : Machine} {state : State} {settings : Settings}

/-- What is reported about an installation. -/
def Installation.event : Installation → Event
  | .finished seconds code complaint =>
    if seconds.less installationLimit then
      if code = 0 then .installed
      else .installRefused code
        (String.ofList ((Text.decodeLossy complaint).take complaintLimit))
    else .installTimedOut
  | .notStarted => .installNotStarted

theorem install_of_tried (tried : state.installationTried = true) :
    install state = ⟨.ok false, [], state⟩ := by
  simp [install, Activity.bind, observe, inspect, tried, ofOutcome, Transcript.after]

theorem install_of_untried (untried : state.installationTried = false) :
    install state =
      ⟨.ok state.nextInstallation.succeeds,
        [.reported .installing, .called .install, .reported state.nextInstallation.event],
        { state with installationTried := true, installations := state.installations.tail }⟩ := by
  obtain ⟨launches, installations, tried, filters, opened, failure, hears⟩ := state
  cases untried
  simp only [install, bind_eq, Activity.bind, observe, inspect, update, report, call, take,
    Bool.false_eq_true, if_false, State.nextInstallation]
  cases installations.head?.getD (.finished (.whole 0) 0 []) with
  | notStarted => rfl
  | finished seconds code complaint =>
      cases inTime : seconds.less installationLimit with
      | false =>
          simp [inTime, observe, take, ofOutcome, Transcript.after, Installation.succeeds,
            Installation.event]
      | true =>
          by_cases success : code = 0
          all_goals
            simp [inTime, success, observe, take, ofOutcome, Transcript.after,
              Installation.succeeds, Installation.event]

/-! ## Launching -/

/-- How launching the browser goes in a state: which attempts are made, and how it ends. -/
inductive LaunchCourse (state : State) : List Attempt → Except Fault Unit → Prop where
  | launched : state.firstReport = none → LaunchCourse state [.launch] (.ok ())
  | refused {report : String} : state.firstReport = some report → saysMissing report = false →
      LaunchCourse state [.launch] (.error (.launchFailed report))
  | forgone {report : String} : state.firstReport = some report → saysMissing report = true →
      state.installationTried = true → LaunchCourse state [.launch] (.error .installFailed)
  | uninstalled {report : String} : state.firstReport = some report → saysMissing report = true →
      state.installationTried = false → state.nextInstallation.succeeds = false →
      LaunchCourse state [.launch, .install] (.error .installFailed)
  | relaunched {report : String} : state.firstReport = some report → saysMissing report = true →
      state.isInstallable = true → state.secondReport = none →
      LaunchCourse state [.launch, .install, .launch] (.ok ())
  | lost {report last : String} : state.firstReport = some report → saysMissing report = true →
      state.isInstallable = true → state.secondReport = some last →
      LaunchCourse state [.launch, .install, .launch] (.error (.browserCall last))

theorem launch_of_launched (launches : state.firstReport = none) :
    launch settings state = attemptLaunch settings state := by
  simp [launch, observe, attemptLaunch_of_launched launches, ofOutcome, Transcript.after]

/-- A browser that is not missing is not installed. -/
theorem launch_of_refused {report : String} (refuses : state.firstReport = some report)
    (present : saysMissing report = false) :
    launch settings state =
      ⟨.error (.launchFailed report), [.called (.launch settings.headless)],
        { state with launches := state.launches.tail }⟩ := by
  simp [launch, observe, attemptLaunch_of_refused refuses, present, Activity.fail, ofOutcome,
    Transcript.after]

/-- A browser that is missing is installed, and launched again if that succeeds. -/
theorem launch_of_missing {report : String} (refuses : state.firstReport = some report)
    (missing : saysMissing report = true) :
    launch settings state =
      (install.bind (fun installed =>
        if installed then attemptLaunch settings else Activity.fail .installFailed)
          { state with launches := state.launches.tail }).after
        [.called (.launch settings.headless)] := by
  simp only [launch, observe, attemptLaunch_of_refused refuses, missing]
  rfl

/-- Once an installation has been attempted, a browser that is missing stays missing. -/
theorem launch_of_tried {report : String} (refuses : state.firstReport = some report)
    (missing : saysMissing report = true) (tried : state.installationTried = true) :
    launch settings state =
      ⟨.error .installFailed, [.called (.launch settings.headless)],
        { state with launches := state.launches.tail }⟩ := by
  have skips : install { state with launches := state.launches.tail } = _ :=
    install_of_tried tried
  rw [launch_of_missing refuses missing, bind_of_ok (by rw [skips]), skips]
  rfl

/-- What follows an installation depends on whether it succeeds. -/
theorem launch_of_untried {report : String} (refuses : state.firstReport = some report)
    (missing : saysMissing report = true) (untried : state.installationTried = false) :
    launch settings state =
      ((if state.nextInstallation.succeeds then attemptLaunch settings
        else Activity.fail .installFailed : Deed Unit)
          { state with
            launches := state.launches.tail
            installationTried := true
            installations := state.installations.tail }).after
        [.called (.launch settings.headless), .reported .installing, .called .install,
          .reported state.nextInstallation.event] := by
  have installs : install { state with launches := state.launches.tail } = _ :=
    install_of_untried untried
  rw [launch_of_missing refuses missing, bind_of_ok (by rw [installs]), installs,
    Transcript.after_after]
  rfl

theorem launch_course (settings : Settings) (state : State) :
    LaunchCourse state (attempts (launch settings state).steps)
      (launch settings state).outcome := by
  cases first : state.firstReport with
  | none =>
      rw [launch_of_launched first, attemptLaunch_of_launched first]
      exact .launched first
  | some report =>
      cases missing : saysMissing report with
      | false =>
          rw [launch_of_refused first missing]
          exact .refused first missing
      | true =>
          cases tried : state.installationTried with
          | true =>
              rw [launch_of_tried first missing tried]
              exact .forgone first missing tried
          | false =>
              rw [launch_of_untried first missing tried]
              cases succeeds : state.nextInstallation.succeeds with
              | false => exact .uninstalled first missing tried succeeds
              | true =>
                  have installable : state.isInstallable = true := by
                    simp [State.isInstallable, tried, succeeds]
                  simp only [if_true]
                  cases second : state.secondReport with
                  | none =>
                      rw [attemptLaunch_of_launched]
                      · exact .relaunched first missing installable second
                      · exact second
                  | some last =>
                      rw [attemptLaunch_of_refused]
                      · exact .lost first missing installable second
                      · exact second

namespace LaunchCourse

variable {made : List Attempt} {outcome : Except Fault Unit}

/-- Opening other parts changes nothing about how the browser can be launched. -/
theorem of_opening {part : Part} (course : LaunchCourse (state.opening part) made outcome) :
    LaunchCourse state made outcome := by
  cases course with
  | launched first => exact .launched first
  | refused first present => exact .refused first present
  | forgone first missing tried => exact .forgone first missing tried
  | uninstalled first missing untried fails => exact .uninstalled first missing untried fails
  | relaunched first missing installable second =>
      exact .relaunched first missing installable second
  | lost first missing installable second => exact .lost first missing installable second

/-- The browser is launched at most twice, and installed in between. -/
theorem made_prefix (course : LaunchCourse state made outcome) :
    made <+: [.launch, .install, .launch] := by
  cases course <;> decide

theorem made_eq_iff (course : LaunchCourse state made outcome) :
    made = [.launch, .install, .launch] ↔ state.isRelaunched = true := by
  cases course <;> simp_all [State.isRelaunched, State.isInstallable]

theorem ends (course : LaunchCourse state made outcome) :
    outcome = .ok () ∨ (∃ fault, outcome = .error fault ∧ fault.label = "BrowserError") ∨
      ∃ report, outcome = .error (.browserCall report) := by
  cases course with
  | launched | relaunched => exact .inl rfl
  | refused | forgone | uninstalled => exact .inr (.inl ⟨_, rfl, rfl⟩)
  | lost => exact .inr (.inr ⟨_, rfl⟩)

theorem lost_iff (course : LaunchCourse state made outcome) (report : String) :
    outcome = .error (.browserCall report) ↔
      state.isRelaunched = true ∧ state.secondReport = some report := by
  cases course <;> simp_all [State.isRelaunched, State.isInstallable]

end LaunchCourse

/-! ## Starting -/

/-- Opening a page makes no attempt to come by a browser. -/
theorem openPage_unattempted (settings : Settings) (machine : Machine) :
    (openPage settings machine).Keeps (fun step => step.attempt? = none) unseen := by
  apply openPage_keeps
  · exact rfl
  · exact rfl
  · exact fun _ => rfl
  · exact rfl
  · exact fun _ _ _ _ => rfl

theorem attempts_eq_nil {steps : List Step} (unattempted : ∀ step ∈ steps, step.attempt? = none) :
    attempts steps = [] :=
  List.filterMap_eq_nil_iff.mpr unattempted

/-- Stopping makes no attempt to come by a browser. -/
theorem attempts_stop (machine : Machine) (state : State) :
    attempts (stop machine state).1 = [] := by
  apply attempts_eq_nil
  rw [stop_apply]
  intro step member
  rcases List.mem_append.mp member with closed | reported
  · obtain ⟨part, -, rfl⟩ := List.mem_map.mp closed
    rfl
  · rw [List.mem_singleton.mp reported]
    rfl

/-- A page can be opened if neither the context nor the page fails. -/
theorem openPage_succeeds (contexts : machine.contextFault = none)
    (pages : machine.pageFault = none) (settings : Settings) (state : State) :
    (openPage settings machine state).outcome = .ok () := by
  simp only [openPage, contexts, pages]
  cases settings.blockScripts.isTruthy <;> rfl

/-- If the driver fails, nothing is attempted. -/
theorem start_of_driverFault {text : String} (drivers : machine.driverFault = some text)
    (settings : Settings) (state : State) :
    start settings machine state = ⟨.error (.browserCall text), [.called .start], state⟩ := by
  have fails : openPart .start machine.driverFault (State.opening .driver) state =
      ⟨.error (.browserCall text), [.called .start], state⟩ := by
    rw [drivers]
    rfl
  rw [start_eq, bind_of_error (by rw [fails]), fails]

/-- Otherwise starting a session attempts what launching the browser attempts.  It fails as that
fails, and it can fail on the way to a page. -/
theorem start_launches (drivers : machine.driverFault = none) (settings : Settings)
    (state : State) :
    ∃ launched, LaunchCourse state (attempts (start settings machine state).steps) launched ∧
      (∀ fault, launched = .error fault →
        (start settings machine state).outcome = .error fault) ∧
      (launched = .ok () → machine.contextFault = none → machine.pageFault = none →
        (start settings machine state).outcome = .ok ()) := by
  have begins : openPart .start machine.driverFault (State.opening .driver) state =
      ⟨.ok (), [.called .start], state.opening .driver⟩ := by
    rw [drivers]
    rfl
  have course := (launch_course settings (state.opening .driver)).of_opening
  rw [start_eq, bind_of_ok (by rw [begins]), begins]
  generalize state.opening .driver = entered at course ⊢
  refine ⟨(launch settings entered).outcome, ?_⟩
  cases launches : (launch settings entered).outcome with
  | error fault =>
      have inside := bind_of_error launches fun _ => openPage settings machine
      have failed : ((launch settings).bind (fun _ => openPage settings machine)
          entered).outcome = .error fault := by rw [inside]
      have undone := undoing_of_error failed (stop machine)
      rw [bind_of_error (by rw [undone]), undone, inside]
      simp only [Transcript.outcome_after, Transcript.steps_after, attempts_append, attempts_stop,
        List.append_nil]
      rw [launches] at course
      refine ⟨course, ?_, nofun⟩
      intro other same
      cases same
      rfl
  | ok result =>
      have inside := bind_of_ok launches fun _ => openPage settings machine
      have still := (openPage_unattempted settings machine (launch settings entered).state).1
      rw [launches] at course
      cases opens : (openPage settings machine (launch settings entered).state).outcome with
      | error fault =>
          have failed : ((launch settings).bind (fun _ => openPage settings machine)
              entered).outcome = .error fault := by
            rw [inside, Transcript.outcome_after, opens]
          have undone := undoing_of_error failed (stop machine)
          rw [bind_of_error (by rw [undone]), undone, inside]
          simp only [Transcript.outcome_after, Transcript.steps_after, attempts_append,
            attempts_stop, attempts_eq_nil still, List.append_nil]
          refine ⟨course, nofun, ?_⟩
          intro _ contexts pages
          rw [openPage_succeeds contexts pages] at opens
          cases opens
      | ok result =>
          have succeeds : ((launch settings).bind (fun _ => openPage settings machine)
              entered).outcome = .ok () := by
            rw [inside, Transcript.outcome_after, opens]
          have kept := undoing_of_ok succeeds (stop machine)
          rw [bind_of_ok (by rw [kept, succeeds]), kept, inside]
          simp only [Transcript.outcome_after, Transcript.steps_after, attempts_append,
            attempts_eq_nil still]
          refine ⟨?_, nofun, fun _ _ _ => rfl⟩
          change LaunchCourse state (attempts (launch settings entered).steps ++ [] ++ []) (.ok ())
          rw [List.append_nil, List.append_nil]
          exact course

/-- If nothing else fails, starting a session goes as launching the browser goes. -/
theorem start_course (drivers : machine.driverFault = none) (contexts : machine.contextFault = none)
    (pages : machine.pageFault = none) (settings : Settings) (state : State) :
    LaunchCourse state (attempts (start settings machine state).steps)
      (start settings machine state).outcome := by
  obtain ⟨launched, course, fails, succeeds⟩ := start_launches drivers settings state
  cases launched with
  | error fault =>
      rw [fails fault rfl]
      exact course
  | ok result =>
      rw [succeeds rfl contexts pages]
      exact course

/-- A session can be started if nothing fails. -/
theorem start_succeeds (drivers : machine.driverFault = none)
    (contexts : machine.contextFault = none) (pages : machine.pageFault = none)
    (launches : state.firstReport = none) (settings : Settings) :
    (start settings machine state).outcome = .ok () := by
  have course := start_course drivers contexts pages settings state
  generalize attempts (start settings machine state).steps = made at course
  generalize (start settings machine state).outcome = outcome at course ⊢
  cases course <;> simp_all

/-- A session of which nothing fails but launching the browser either has a browser or ends with a
fault of the browser, except for what a second launch reports: that is passed on as it is.  The
browser is launched at most twice, and a second time exactly if the first launch says that it is
missing and it could be installed. -/
theorem start_slips_iff (settings : Settings) (unclosable : List Part) (state : State) :
    let ran := start settings ⟨none, none, none, unclosable⟩ state
    (ran.outcome = .ok () ∧ ran.state.opened = .of Part.all ∨
        (∃ fault, ran.outcome = .error fault ∧ fault.label = "BrowserError") ∨
        ∃ report, ran.outcome = .error (.browserCall report)) ∧
      (∀ report, ran.outcome = .error (.browserCall report) ↔
        state.isRelaunched = true ∧ state.secondReport = some report) ∧
      attempts ran.steps <+: [.launch, .install, .launch] ∧
      (attempts ran.steps = [.launch, .install, .launch] ↔ state.isRelaunched = true) := by
  intro ran
  have course : LaunchCourse state (attempts ran.steps) ran.outcome :=
    start_course rfl rfl rfl settings state
  refine ⟨?_, course.lost_iff, course.made_prefix, course.made_eq_iff⟩
  rcases course.ends with ok | failed
  · exact .inl ⟨ok, opened_of_start ok⟩
  · exact .inr failed

/-- The browser is missing, can be installed, and then cannot be launched either. -/
def brokenState : State :=
  .initial [some "Executable doesn't exist at /ms-playwright/chromium", some "crashpad failed"] []

/-- What a second launch reports is no fault of the browser. -/
theorem second_launch_slips :
    ¬∀ (settings : Settings) (unclosable : List Part) (state : State),
      let ran := start settings ⟨none, none, none, unclosable⟩ state
      ran.outcome = .ok () ∨
        ∃ fault, ran.outcome = .error fault ∧ fault.label = "BrowserError" := by
  intro wraps
  have course : LaunchCourse brokenState _
      (start .standard ⟨none, none, none, []⟩ brokenState).outcome :=
    start_course rfl rfl rfl .standard brokenState
  have relaunched : brokenState.isRelaunched = true := by decide +kernel
  have lost := (course.lost_iff "crashpad failed").mpr ⟨relaunched, rfl⟩
  rcases wraps .standard [] brokenState with ok | ⟨fault, failed, label⟩
  · rw [lost] at ok
    cases ok
  · rw [lost] at failed
    cases failed
    revert label
    decide

end CriticalCss.Browser
