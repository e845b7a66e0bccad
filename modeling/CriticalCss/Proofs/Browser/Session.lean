import CriticalCss.Browser.Session
import CriticalCss.Proofs.Keeping

/-!
# What starting and stopping leave alone

A session opens and closes its parts without touching anything that a page holds.
-/

namespace CriticalCss.Browser

/-- A question to a page: which elements a selector selects, or what measuring an element gives; a
top with floats cleared in a given way.  The element is named by the selector and by its key among
the selected. -/
inductive Question where
  | elements (selector : String)
  | top (clear selector key : String)
  | position (selector key : String)
  deriving DecidableEq

/-- The question that a step asks. -/
def Step.question? : Step → Option Question
  | .called (.evaluate selector) => some (.elements selector)
  | .called (.measureTop handle clear) => some (.top clear handle.selector handle.key)
  | .called (.measurePosition handle) => some (.position handle.selector handle.key)
  | _ => none

/-- The step asks nothing. -/
def Step.IsSilent (step : Step) : Prop := step.question? = none

/-- The step touches nothing that a page holds: it is no call to look up, measure or
release something there. -/
def Step.IsOutside : Step → Prop
  | .called (.evaluate _) | .called (.properties _) | .called (.releaseArray _)
  | .called (.measureTop _ _) | .called (.measurePosition _) | .called (.release _) => False
  | _ => True

/-- The step opens or closes a part of a session, listens, or reports: it belongs to starting or to
stopping a session. -/
def Step.IsOfSession : Step → Prop
  | .called .start | .called (.launch _) | .called .install | .called (.newContext _)
  | .called .newPage | .called (.listen _) | .called .filterRequests | .called (.close _)
  | .reported _ => True
  | _ => False

theorem Step.IsOfSession.isOutside {step : Step} (ofSession : step.IsOfSession) :
    step.IsOutside := by
  simp only [IsOfSession] at ofSession
  simp only [IsOutside]
  split at ofSession <;> trivial

/-- Whoever touches nothing that a page holds asks nothing. -/
theorem Step.IsOutside.isSilent {step : Step} (outside : step.IsOutside) : step.IsSilent := by
  simp only [IsOutside] at outside
  unfold IsSilent question?
  split at outside <;> simp_all

/-- Silent steps do not show among the questions. -/
theorem questions_eq_nil {steps : List Step} (silent : ∀ step ∈ steps, step.IsSilent) :
    steps.filterMap Step.question? = [] :=
  List.filterMap_eq_nil_iff.mpr silent

open Activity

section

variable {ρ : Type} {view : State → ρ}

theorem report_keeps {σ : Type} {view : σ → ρ} (event : Event) :
    (report event : Activity σ Step Unit).Keeps Step.IsOfSession view :=
  keeps_take trivial

/-- A call that belongs to a session keeps to itself. -/
theorem call_keeps {σ : Type} {view : σ → ρ} (request : Call)
    (ofSession : (Step.called request).IsOfSession) :
    (call request : Activity σ Step Unit).Keeps Step.IsOfSession view :=
  keeps_take ofSession

theorem succeedUnless_keeps {allowed : Step → Prop} (fault : Option String) :
    (succeedUnless fault).Keeps allowed view := by
  cases fault <;> exact keeps_ofOutcome _

/-! ## Starting and stopping -/

/-- All states look the same. -/
def unseen {σ : Type} (_ : σ) : Unit := ()

theorem update_unseen {σ : Type} {allowed : Step → Prop} (change : σ → σ) :
    (update change : Activity σ Step Unit).Keeps allowed unseen :=
  keeps_update fun _ => rfl

/-- Whoever touches nothing that a page holds asks nothing, whatever the view is. -/
theorem silent_of_keeps {σ α : Type} {view : σ → ρ} {activity : Activity σ Step α}
    (keeps : activity.Keeps Step.IsOutside view) : activity.Keeps Step.IsSilent unseen :=
  fun state => ⟨fun step member => ((keeps state).1 step member).isSilent, rfl⟩

theorem report_silent {σ : Type} (event : Event) :
    (report event : Activity σ Step Unit).Keeps Step.IsSilent unseen :=
  keeps_take rfl

theorem closePart_ofSession (machine : Machine) (part : Part) :
    (closePart machine part).Keeps Step.IsOfSession unseen := by
  refine (keeps_inspect _).bind fun isOpen => ?_
  cases isOpen with
  | false => exact keeps_ofOutcome _
  | true =>
      refine (call_keeps (.close part) trivial).bind fun _ => (update_unseen _).bind fun _ => ?_
      split <;> exact keeps_ofOutcome _

theorem stop_ofSession (machine : Machine) :
    Tidying.Keeps Step.IsOfSession unseen (stop machine) :=
  Keeps.heedless <|
    (closePart_ofSession machine .page).attempt.bind fun _ =>
      (closePart_ofSession machine .context).attempt.bind fun _ =>
        (closePart_ofSession machine .browser).attempt.bind fun _ =>
          (closePart_ofSession machine .driver).attempt.bind fun _ => report_keeps _

theorem stop_outside (machine : Machine) :
    Tidying.Keeps Step.IsOutside unseen (stop machine) :=
  (keeps_tidy (stop_ofSession machine)).mono fun _ => Step.IsOfSession.isOutside

theorem stop_silent (machine : Machine) : Tidying.Keeps Step.IsSilent unseen (stop machine) :=
  silent_of_keeps (keeps_tidy (stop_outside machine))

/-- Installing the browser takes no steps but its own, and changes nothing but what is known of
installations. -/
theorem install_keeps {allowed : Step → Prop} (reports : ∀ event, allowed (.reported event))
    (installs : allowed (.called .install))
    (same : ∀ state tried installations,
      view { state with installationTried := tried, installations := installations } = view state) :
    install.Keeps allowed view := by
  have noting : ∀ event, (report event : Deed Unit).Keeps allowed view := fun event =>
    keeps_take (reports event)
  rw [install]
  refine (keeps_inspect _).bind fun tried => ?_
  split
  · exact keeps_ofOutcome _
  refine (keeps_update fun state => same state _ _).bind fun _ => (noting _).bind fun _ => ?_
  refine (keeps_take installs).bind fun _ => (keeps_inspect _).bind fun installation => ?_
  refine (keeps_update fun state => same state _ _).bind fun _ => ?_
  split
  · exact (noting _).bind fun _ => keeps_ofOutcome _
  · split
    · split <;> exact (noting _).bind fun _ => keeps_ofOutcome _
    · exact (noting _).bind fun _ => keeps_ofOutcome _

theorem install_ofSession : install.Keeps Step.IsOfSession unseen :=
  install_keeps (fun _ => trivial) trivial fun _ _ _ => rfl

/-- An attempt to launch the browser takes no step but one, and changes nothing but the launches in
store and what is open. -/
theorem attemptLaunch_keeps {allowed : Step → Prop} {settings : Settings}
    (launches : allowed (.called (.launch settings.headless)))
    (same : ∀ state launches opened,
      view { state with launches := launches, opened := opened } = view state) :
    (attemptLaunch settings).Keeps allowed view :=
  (keeps_take launches).bind fun _ => (keeps_inspect _).bind fun fault =>
    (keeps_update fun state => same state _ state.opened).bind fun _ =>
      (succeedUnless_keeps fault).bind fun _ =>
        keeps_update fun state => same state state.launches _

theorem attemptLaunch_ofSession (settings : Settings) :
    (attemptLaunch settings).Keeps Step.IsOfSession unseen :=
  attemptLaunch_keeps trivial fun _ _ _ => rfl

theorem launch_ofSession (settings : Settings) :
    (launch settings).Keeps Step.IsOfSession unseen := by
  refine (attemptLaunch_ofSession settings).observe fun outcome => ?_
  split
  · split
    · refine install_ofSession.bind fun installed => ?_
      cases installed with
      | true => exact attemptLaunch_ofSession settings
      | false => exact keeps_ofOutcome _
    · exact keeps_ofOutcome _
  · exact keeps_ofOutcome _

/-- Opening a page takes no steps but its own, and changes nothing but what is open, what is heard
and which requests pass. -/
theorem openPage_keeps {allowed : Step → Prop} {settings : Settings}
    (context : allowed (.called (.newContext settings))) (page : allowed (.called .newPage))
    (listens : ∀ subject, allowed (.called (.listen subject)))
    (filters : allowed (.called .filterRequests))
    (same : ∀ state opened hears filters,
      view { state with opened := opened, hearsPage := hears, filtersRequests := filters } =
        view state) (machine : Machine) :
    (openPage settings machine).Keeps allowed view := by
  refine (keeps_take context).bind fun _ => (succeedUnless_keeps _).bind fun _ =>
    (keeps_update fun state => same state _ state.hearsPage state.filtersRequests).bind fun _ =>
      (keeps_take page).bind fun _ => (succeedUnless_keeps _).bind fun _ =>
        (keeps_update fun state => same state _ true state.filtersRequests).bind fun _ =>
          (keeps_take (listens .console)).bind fun _ =>
            (keeps_take (listens .pageError)).bind fun _ =>
              (keeps_take (listens .requestFailed)).bind fun _ => ?_
  split
  · exact (keeps_take filters).bind fun _ =>
      keeps_update fun state => same state state.opened state.hearsPage true
  · exact keeps_ofOutcome _

theorem openPage_ofSession (settings : Settings) (machine : Machine) :
    (openPage settings machine).Keeps Step.IsOfSession unseen :=
  openPage_keeps trivial trivial (fun _ => trivial) trivial (fun _ _ _ _ => rfl) machine

theorem start_ofSession (settings : Settings) (machine : Machine) :
    (start settings machine).Keeps Step.IsOfSession unseen :=
  (call_keeps .start trivial).bind fun _ => (succeedUnless_keeps _).bind fun _ =>
    (update_unseen _).bind fun _ =>
      (((launch_ofSession settings).bind fun _ => openPage_ofSession settings machine).undoing
        (stop_ofSession machine)).bind fun _ => report_keeps _

/-- Starting a session touches nothing in a page. -/
theorem start_outside (settings : Settings) (machine : Machine) :
    (start settings machine).Keeps Step.IsOutside unseen :=
  (start_ofSession settings machine).mono fun _ => Step.IsOfSession.isOutside

end

/-- A machine on which nothing fails. -/
def soundMachine : Machine := ⟨none, none, none, []⟩

end CriticalCss.Browser
