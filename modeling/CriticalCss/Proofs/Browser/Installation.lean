import CriticalCss.Proofs.Browser.Launching

/-!
# The browser is installed at most once

The sessions of a process share what the machine has in store, and whether an installation has been
attempted; what is open is each session's own.  However they are started and stopped, that a
browser is missing is met with an installation the first time only.  The invariant that carries a
run says that an installation has been attempted exactly if one of the steps so far was one.
-/

namespace CriticalCss.Browser

open Activity

/-! ## Sessions of one process -/

/-- A process with sessions, which are known by numbers. -/
structure Process where
  launches : List (Option String)
  installations : List Installation
  installationTried : Bool
  filtersRequests : Bool
  opened : Nat → Opened
  lastFailure : Nat → Option ResourceFailure
  /-- The session to which the page opened last belongs. -/
  heard : Option Nat

namespace Process

/-- Before any session. -/
def initial (launches : List (Option String)) (installations : List Installation) : Process :=
  ⟨launches, installations, false, false, fun _ => .nothing, fun _ => none, none⟩

/-- The state that a session finds. -/
def stateOf (process : Process) (session : Nat) : State :=
  ⟨process.launches, process.installations, process.installationTried, process.filtersRequests,
    process.opened session, process.lastFailure session, process.heard == some session⟩

/-- What a session leaves behind: its own parts change, and those of other sessions do not. -/
def leave (process : Process) (session : Nat) (state : State) : Process where
  launches := state.launches
  installations := state.installations
  installationTried := state.installationTried
  filtersRequests := state.filtersRequests
  opened other := if other = session then state.opened else process.opened other
  lastFailure other := if other = session then state.lastFailure else process.lastFailure other
  heard := if state.hearsPage then some session else process.heard

end Process

/-- A request to a session. -/
inductive Request where
  | start (settings : Settings) (machine : Machine)
  | stop (machine : Machine)

/-- What a request asks to do. -/
def Request.deed : Request → Deed Unit
  | start settings machine => Browser.start settings machine
  | stop machine => tidy (Browser.stop machine)

/-- A request to a session, and the state that the session finds. -/
structure Episode where
  session : Nat
  request : Request
  state : State

namespace Episode

/-- What is done about the request. -/
def transcript (episode : Episode) : Transcript State Step Unit :=
  episode.request.deed episode.state

/-- The attempts to come by a browser. -/
def made (episode : Episode) : List Attempt := attempts episode.transcript.steps

/-- The browser is launched, and the first launch reports that it is missing. -/
structure MissesBrowser (episode : Episode) : Prop where
  launches : .launch ∈ episode.made
  missing : ∃ report, episode.state.firstReport = some report ∧ saysMissing report = true

end Episode

/-- Carries out requests to sessions, one after the other. -/
def Process.episodes : Process → List (Nat × Request) → List Episode
  | _, [] => []
  | process, (session, request) :: rest =>
    let episode : Episode := ⟨session, request, process.stateOf session⟩
    episode :: (process.leave session episode.transcript.state).episodes rest

/-! ## What is known of installations -/

section

variable {α β : Type} {activity : Deed α}

/-- An installation has been attempted after an activity if it was before, or if the activity
attempts one. -/
def TracksInstallation (activity : Deed α) : Prop :=
  ∀ state, (activity state).state.installationTried = true ↔
    state.installationTried = true ∨ .install ∈ attempts (activity state).steps

theorem tracks_of_keeps
    (keeps : activity.Keeps (fun step => step.attempt? ≠ some .install) State.installationTried) :
    TracksInstallation activity := by
  intro state
  have ⟨others, same⟩ := keeps state
  have notInstalled : .install ∉ attempts (activity state).steps := by
    intro member
    obtain ⟨step, among, isInstall⟩ := List.mem_filterMap.mp member
    exact others step among isInstall
  rw [same]
  simp only [notInstalled, or_false]

theorem TracksInstallation.observe {next : Except Fault α → Deed β}
    (first : TracksInstallation activity) (rest : ∀ outcome, TracksInstallation (next outcome)) :
    TracksInstallation (activity.observe next) := by
  intro state
  have former := first state
  have latter := rest (activity state).outcome (activity state).state
  rw [former, or_assoc, ← List.mem_append, ← attempts_append] at latter
  exact latter

theorem TracksInstallation.bind {next : α → Deed β} (first : TracksInstallation activity)
    (rest : ∀ result, TracksInstallation (next result)) :
    TracksInstallation (activity.bind next) := by
  apply first.observe
  intro outcome
  cases outcome with
  | ok result => exact rest result
  | error fault => exact tracks_of_keeps (keeps_ofOutcome _)

theorem TracksInstallation.undoing {tidying : Tidying State Step}
    (tracks : TracksInstallation activity) (tidies : TracksInstallation (tidy tidying)) :
    TracksInstallation (activity.undoing tidying) := by
  apply tracks.observe
  intro outcome
  cases outcome with
  | ok result => exact tracks_of_keeps (keeps_ofOutcome _)
  | error fault =>
      apply tidies.observe
      intro _
      exact tracks_of_keeps (keeps_ofOutcome _)

theorem install_tracks : TracksInstallation install := by
  intro state
  cases tried : state.installationTried with
  | true =>
      rw [install_of_tried tried]
      simp only [tried, true_or]
  | false =>
      rw [install_of_untried tried]
      simp [attempts, Step.attempt?]

theorem attemptLaunch_tracks (settings : Settings) :
    TracksInstallation (attemptLaunch settings) :=
  tracks_of_keeps (attemptLaunch_keeps nofun fun _ _ _ => rfl)

theorem launch_tracks (settings : Settings) : TracksInstallation (launch settings) := by
  apply (attemptLaunch_tracks settings).observe
  intro outcome
  split
  · split
    · apply install_tracks.bind
      intro installed
      cases installed with
      | true => exact attemptLaunch_tracks settings
      | false => exact tracks_of_keeps (keeps_ofOutcome _)
    · exact tracks_of_keeps (keeps_ofOutcome _)
  · exact tracks_of_keeps (keeps_ofOutcome _)

theorem stop_tracks (machine : Machine) : TracksInstallation (tidy (stop machine)) := by
  intro state
  have none := attempts_stop machine state
  rw [stop_apply] at none
  simp only [tidy, stop_apply, none, List.not_mem_nil, or_false]

theorem start_tracks (settings : Settings) (machine : Machine) :
    TracksInstallation (start settings machine) := by
  have opens : TracksInstallation (openPage settings machine) := by
    apply tracks_of_keeps
    exact openPage_keeps nofun nofun (fun _ => nofun) nofun (fun _ _ _ _ => rfl) machine
  have reports : TracksInstallation (report (.sessionStarted settings.viewportWidth
      settings.viewportHeight settings.blockScripts)) :=
    tracks_of_keeps (keeps_take nofun)
  have drives : TracksInstallation (openPart .start machine.driverFault (State.opening .driver)) := by
    apply tracks_of_keeps
    apply (keeps_take nofun).bind
    intro _
    apply (succeedUnless_keeps _).bind
    intro _
    exact keeps_update fun _ => rfl
  have inside : TracksInstallation ((launch settings).bind fun _ => openPage settings machine) :=
    (launch_tracks settings).bind fun _ => opens
  rw [start_eq]
  apply drives.bind
  intro _
  exact (inside.undoing (stop_tracks machine)).bind fun _ => reports

end

/-! ## One request -/

namespace LaunchCourse

variable {state : State} {made : List Attempt} {outcome : Except Fault Unit}

theorem launch_mem (course : LaunchCourse state made outcome) : .launch ∈ made := by
  cases course <;> decide

/-- An installation is attempted exactly if the browser is missing and none has been attempted. -/
theorem install_mem_iff (course : LaunchCourse state made outcome) :
    .install ∈ made ↔ (∃ report, state.firstReport = some report ∧ saysMissing report = true) ∧
      state.installationTried = false := by
  cases course <;> simp_all [State.isInstallable]

/-- An installation follows one launch. -/
theorem launch_before_install (course : LaunchCourse state made outcome)
    (installs : .install ∈ made) : [.launch, .install] <+: made := by
  cases course with
  | launched | refused | forgone => simp at installs
  | uninstalled | relaunched | lost => decide

/-- Once an installation has been attempted, a missing browser is given up after one launch. -/
theorem of_tried (course : LaunchCourse state made outcome)
    (missing : ∃ report, state.firstReport = some report ∧ saysMissing report = true)
    (tried : state.installationTried = true) :
    made = [.launch] ∧ outcome = .error .installFailed := by
  obtain ⟨report, first, isMissing⟩ := missing
  cases course <;> simp_all [State.isInstallable]

end LaunchCourse

namespace Episode

variable {episode : Episode}

/-- A request that attempts anything is a start, and goes as launching the browser goes. -/
theorem course (attempted : episode.made ≠ []) :
    (∃ settings machine, episode.request = .start settings machine) ∧
      ∃ launched, LaunchCourse episode.state episode.made launched ∧
        ∀ fault, launched = .error fault → episode.transcript.outcome = .error fault := by
  obtain ⟨session, request, state⟩ := episode
  cases request with
  | stop machine =>
      rw [made, transcript, Request.deed, tidy, attempts_stop] at attempted
      exact absurd rfl attempted
  | start settings machine =>
      refine ⟨⟨settings, machine, rfl⟩, ?_⟩
      cases drivers : machine.driverFault with
      | some text =>
          rw [made, transcript, Request.deed, start_of_driverFault drivers] at attempted
          exact absurd rfl attempted
      | none =>
          obtain ⟨launched, course, fails, -⟩ := start_launches drivers settings state
          exact ⟨launched, course, fails⟩

/-- A request leads to an installation exactly if it misses the browser and none has been
attempted. -/
theorem install_mem_iff : .install ∈ episode.made ↔
    episode.MissesBrowser ∧ episode.state.installationTried = false := by
  constructor
  · intro installs
    obtain ⟨-, launched, course, -⟩ := course (List.ne_nil_of_mem installs)
    obtain ⟨missing, untried⟩ := course.install_mem_iff.mp installs
    exact ⟨⟨course.launch_mem, missing⟩, untried⟩
  · intro misses
    obtain ⟨misses, untried⟩ := misses
    obtain ⟨-, launched, course, -⟩ := course (List.ne_nil_of_mem misses.launches)
    exact course.install_mem_iff.mpr ⟨misses.missing, untried⟩

theorem count_install_le (episode : Episode) : episode.made.count .install ≤ 1 := by
  by_cases installs : .install ∈ episode.made
  · obtain ⟨-, launched, course, -⟩ := course (List.ne_nil_of_mem installs)
    exact (course.made_prefix.sublist.count_le _).trans (by decide)
  · rw [List.count_eq_zero_of_not_mem installs]
    exact Nat.zero_le 1

/-- After a request an installation has been attempted if it was before, or if the request leads to
one. -/
theorem tried_iff (episode : Episode) : episode.transcript.state.installationTried = true ↔
    episode.state.installationTried = true ∨ .install ∈ episode.made := by
  obtain ⟨session, request, state⟩ := episode
  cases request with
  | start settings machine => exact start_tracks settings machine state
  | stop machine => exact stop_tracks machine state

end Episode

/-! ## A run of a process -/

section

variable {process : Process} {requests : List (Nat × Request)} {past future : List Episode}
  {episode : Episode}

/-- At every request an installation has been attempted if it was before the run, or if a request of
the run has led to one. -/
theorem tried_at_episode (split : process.episodes requests = past ++ episode :: future) :
    episode.state.installationTried = true ↔
      process.installationTried = true ∨ ∃ earlier ∈ past, .install ∈ earlier.made := by
  induction requests generalizing process past with
  | nil => simp [Process.episodes] at split
  | cons request rest ih =>
      obtain ⟨session, request⟩ := request
      simp only [Process.episodes] at split
      cases past with
      | nil =>
          cases split
          simp [Process.stateOf]
      | cons first others =>
          rw [List.cons_append, List.cons.injEq] at split
          obtain ⟨isFirst, splitRest⟩ := split
          have later := ih splitRest
          have attempted := Episode.tried_iff ⟨session, request, process.stateOf session⟩
          rw [isFirst] at attempted
          have before : first.state.installationTried = process.installationTried := by
            rw [← isFirst]
            rfl
          simp only [Process.leave, isFirst, attempted, before] at later
          rw [later, List.exists_mem_cons_iff, or_assoc]

/-- A run attempts one installation, and none if that has been attempted before. -/
theorem count_install_episodes_le (process : Process) (requests : List (Nat × Request)) :
    ((process.episodes requests).flatMap Episode.made).count .install ≤
      if process.installationTried then 0 else 1 := by
  induction requests generalizing process with
  | nil => simp [Process.episodes]
  | cons request rest ih =>
      obtain ⟨session, request⟩ := request
      let episode : Episode := ⟨session, request, process.stateOf session⟩
      have later := ih (process.leave session episode.transcript.state)
      have split : (process.episodes ((session, request) :: rest)).flatMap Episode.made =
          episode.made ++ ((process.leave session episode.transcript.state).episodes
            rest).flatMap Episode.made := rfl
      have attempted := episode.tried_iff
      have before : episode.state.installationTried = process.installationTried := rfl
      have after : (process.leave session episode.transcript.state).installationTried =
          episode.transcript.state.installationTried := rfl
      rw [after] at later
      rw [before] at attempted
      rw [split, List.count_append]
      by_cases installs : .install ∈ episode.made
      · -- The one installation is this one, so none was attempted before and none is later.
        have untried := (Episode.install_mem_iff.mp installs).2
        rw [before] at untried
        rw [attempted.mpr (.inr installs)] at later
        have once := episode.count_install_le
        simp only [untried, if_true, Bool.false_eq_true, if_false] at later ⊢
        omega
      · have same : episode.transcript.state.installationTried = process.installationTried := by
          rw [Bool.eq_iff_iff, attempted]
          simp only [installs, or_false]
        rw [same] at later
        rw [List.count_eq_zero_of_not_mem installs, Nat.zero_add]
        exact later

end

/-- However the sessions of a process are started and stopped, at most one installation is attempted.
It belongs to the first start that misses the browser, after one launch, and every later start that
misses the browser gives it up after one launch with a fault of the browser. -/
theorem installed_once (launches : List (Option String)) (installations : List Installation)
    (requests : List (Nat × Request)) :
    let episodes := (Process.initial launches installations).episodes requests
    (episodes.flatMap Episode.made).count .install ≤ 1 ∧
      (∀ episode ∈ episodes, .install ∈ episode.made →
        (∃ settings machine, episode.request = .start settings machine) ∧
          episode.MissesBrowser ∧ [.launch, .install] <+: episode.made) ∧
      (∀ past episode future, episodes = past ++ episode :: future →
        (.install ∈ episode.made ↔
          episode.MissesBrowser ∧ ∀ earlier ∈ past, .install ∉ earlier.made)) ∧
      (∀ past episode future, episodes = past ++ episode :: future →
        (∃ earlier ∈ past, .install ∈ earlier.made) → episode.MissesBrowser →
        episode.made = [.launch] ∧ ∃ fault, episode.transcript.outcome = .error fault ∧
          fault.label = "BrowserError") := by
  intro episodes
  have atEpisode : ∀ past episode future, episodes = past ++ episode :: future →
      (episode.state.installationTried = true ↔ ∃ earlier ∈ past, .install ∈ earlier.made) := by
    intro past episode future split
    have tried := tried_at_episode split
    simp only [Process.initial, Bool.false_eq_true, false_or] at tried
    exact tried
  refine ⟨count_install_episodes_le _ requests, ?_, ?_, ?_⟩
  · intro episode _ installs
    have misses := (Episode.install_mem_iff.mp installs).1
    obtain ⟨starts, launched, course, -⟩ := Episode.course (List.ne_nil_of_mem installs)
    exact ⟨starts, misses, course.launch_before_install installs⟩
  · intro past episode future split
    rw [Episode.install_mem_iff, ← Bool.not_eq_true, atEpisode past episode future split]
    simp only [not_exists, not_and]
  · intro past episode future split installed misses
    have tried := (atEpisode past episode future split).mpr installed
    obtain ⟨-, launched, course, fails⟩ := Episode.course (List.ne_nil_of_mem misses.launches)
    obtain ⟨single, gaveUp⟩ := course.of_tried misses.missing tried
    exact ⟨single, .installFailed, fails _ gaveUp, rfl⟩

/-- The browser is missing twice, and in between it can be launched. -/
def missingTwice : List (Option String) :=
  [some "Executable doesn't exist at /ms-playwright/chromium", none,
    some "Executable doesn't exist at /ms-playwright/chromium"]

/-- Two sessions are started, and the first of them is stopped and started again. -/
def restarts : List (Nat × Request) :=
  let machine : Machine := ⟨none, none, none, [.page]⟩
  [(0, .start .standard machine), (0, .stop machine), (1, .start .standard machine),
    (0, .start .standard machine)]

theorem restarts_install_once : ∃ first stopped second third,
    (Process.initial missingTwice []).episodes restarts = [first, stopped, second, third] ∧
      .install ∈ first.made ∧ second.MissesBrowser ∧ second.made = [.launch] ∧
      (∃ fault, second.transcript.outcome = .error fault ∧ fault.label = "BrowserError") ∧
      ([first, stopped, second, third].flatMap Episode.made).count .install ≤ 1 := by
  obtain ⟨once, -, -, later⟩ := installed_once missingTwice [] restarts
  let process := Process.initial missingTwice []
  let machine : Machine := ⟨none, none, none, [.page]⟩
  let first : Episode := ⟨0, .start .standard machine, process.stateOf 0⟩
  let started := process.leave 0 first.transcript.state
  let stopped : Episode := ⟨0, .stop machine, started.stateOf 0⟩
  let left := started.leave 0 stopped.transcript.state
  let second : Episode := ⟨1, .start .standard machine, left.stateOf 1⟩
  let third : Episode :=
    ⟨0, .start .standard machine, (left.leave 1 second.transcript.state).stateOf 0⟩
  have installs : .install ∈ first.made := by decide +kernel
  have misses : second.MissesBrowser :=
    ⟨by decide +kernel, "Executable doesn't exist at /ms-playwright/chromium", by decide +kernel,
      by decide +kernel⟩
  obtain ⟨single, failed⟩ :=
    later [first, stopped] second [third] rfl ⟨first, by simp, installs⟩ misses
  exact ⟨first, stopped, second, third, rfl, installs, misses, single, failed, once⟩

end CriticalCss.Browser
