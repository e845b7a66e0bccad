import CriticalCss.Document.Snapshot
import CriticalCss.Proofs.Pruning.Inquiry
import CriticalCss.Proofs.Pruning.Monotonicity
import Mathlib.Data.Set.Basic

/-!
# Selectors that are refused

A page refuses selectors that it cannot read.  Pruning takes a refusal as the answer that nothing
is selected: it goes on in the same way, and all that tells the two apart is a line in the log.
So selectors that are refused, however many they are and wherever they stand, neither end a pass
nor have a bearing on others.
-/

namespace CriticalCss

variable {ε α β : Type}

namespace PassStep

/-- Whether a step reports that one of some selectors has been refused. -/
def reportsRefusal (refused : Set String) [DecidablePred (· ∈ refused)] : PassStep ε → Bool
  | reported (.droppedSelector _ reduced) => decide (reduced ∈ refused)
  | _ => false

variable {refused : Set String} [DecidablePred (· ∈ refused)]

theorem reportsRefusal_of_isQuestion {step : PassStep ε} (isQuestion : step.isQuestion = true) :
    step.reportsRefusal refused = false := by
  cases step with
  | reported event => cases isQuestion
  | _ => rfl

/-- The report of a refusal is meant for debugging. -/
theorem debug_of_reportsRefusal {step : PassStep ε}
    (reports : step.reportsRefusal refused = true) :
    ∃ event, step = .reported event ∧ event.level = .debug := by
  unfold reportsRefusal at reports
  split at reports
  · exact ⟨_, rfl, rfl⟩
  · cases reports

end PassStep

namespace Document

/-- The documents differ only at some selectors: the first refuses them, and in the second they
select nothing. -/
structure RefusesWhere (first second : Document ε) (refused : Set String) : Prop where
  refuses : ∀ selector ∈ refused, ∃ named, first.query selector = .error (.invalidSelector named)
  selectsNothing : ∀ selector ∈ refused, second.query selector = .ok []
  query : ∀ selector ∉ refused, first.query selector = second.query selector
  top : ∀ clear element, first.top clear element = second.top clear element
  position : ∀ element, first.position element = second.position element

/-- What may end a pass with a fault: a value that does not fit, or the answer to one of its
questions that is not the look-up of a refused selector. -/
inductive Causes (document : Document ε) (refused : Set String) (steps : List (PassStep ε))
    (fault : Fault) : Prop where
  | misfit : fault.isMisfit = true → Causes document refused steps fault
  | query {selector : String} : selector ∉ refused → .queried selector ∈ steps →
      document.query selector = .error fault → Causes document refused steps fault
  | top {clear : String} {element : ε} : .measured clear element ∈ steps →
      document.top clear element = .error fault → Causes document refused steps fault
  | position {element : ε} : .positioned element ∈ steps →
      document.position element = .error fault → Causes document refused steps fault

/-- What is a cause stays one when more is asked. -/
theorem Causes.mono {document : Document ε} {refused : Set String} {steps more : List (PassStep ε)}
    {fault : Fault} (causes : document.Causes refused steps fault)
    (among : ∀ step ∈ steps, step ∈ more) : document.Causes refused more fault := by
  cases causes with
  | misfit isMisfit => exact .misfit isMisfit
  | query other asked failed => exact .query other (among _ asked) failed
  | top asked failed => exact .top (among _ asked) failed
  | position asked failed => exact .position (among _ asked) failed

end Document

namespace Pass

/-! ## Passes that do not mind refusals -/

/-- The pass goes on from a refusal as from a look-up that has found nothing, except that it reports
the refusal. -/
def IgnoresRefusals : Pass ε α → Prop
  | done _ => True
  | note _ rest => rest.IgnoresRefusals
  | query selector next => (∀ reply, (next reply).IgnoresRefusals) ∧
      ∀ named, ∃ original, next (.error (.invalidSelector named)) =
        note (.droppedSelector original selector) (next (.ok []))
  | top _ _ next => ∀ reply, (next reply).IgnoresRefusals
  | position _ next => ∀ reply, (next reply).IgnoresRefusals

theorem IgnoresRefusals.bind {pass : Pass ε α} {next : α → Pass ε β}
    (first : pass.IgnoresRefusals) (rest : ∀ result, (next result).IgnoresRefusals) :
    (pass.bind next).IgnoresRefusals := by
  induction pass with
  | done outcome =>
      cases outcome with
      | ok result => exact rest result
      | error fault => trivial
  | note event _ ih => exact ih first
  | query selector answer ih =>
      obtain ⟨onward, refusal⟩ := first
      constructor
      · intro reply
        exact ih reply (onward reply)
      · intro named
        obtain ⟨original, same⟩ := refusal named
        exact ⟨original, congrArg (·.bind next) same⟩
  | top _ element answer ih | position element answer ih =>
      intro reply
      exact ih reply (first reply)

theorem isAboveFold_ignoresRefusals (height : Value) (element : ε) :
    (isAboveFold height element).IgnoresRefusals := by
  intro top
  cases top with
  | error fault => trivial
  | ok top =>
      simp only [Pass.bind]
      cases top.less height with
      | error kinds => trivial
      | ok above =>
          cases above with
          | true => trivial
          | false =>
              intro position
              cases position with
              | error fault => trivial
              | ok position =>
                  simp only [Pass.bind]
                  cases position.isText "fixed" <;> trivial

theorem anyAboveFold_ignoresRefusals (height : Value) (elements : List ε) :
    (anyAboveFold height elements).IgnoresRefusals := by
  induction elements with
  | nil => trivial
  | cons element rest ih =>
      refine (isAboveFold_ignoresRefusals height element).bind fun above => ?_
      cases above with
      | true => trivial
      | false => exact ih

/-- A selector that is refused is no more critical than one that selects nothing. -/
theorem isCriticalText_ignoresRefusals (options : Options) (selector : String) :
    (isCriticalText options selector : Pass ε Bool).IgnoresRefusals := by
  unfold isCriticalText
  split
  · trivial
  split
  · trivial
  split
  · trivial
  · constructor
    · intro reply
      cases reply with
      | ok elements => exact anyAboveFold_ignoresRefusals _ elements
      | error fault => cases fault <;> trivial
    · intro named
      exact ⟨selector, rfl⟩

theorem isCritical_ignoresRefusals (options : Options) (selector : Value) :
    (isCritical options selector : Pass ε Bool).IgnoresRefusals := by
  unfold isCritical
  split
  · exact isCriticalText_ignoresRefusals options _
  · split <;> trivial
  · trivial

/-- Not minding refusals holds of the parts of pruning. -/
theorem ignoresRefusals_holdsOfParts (options : Options) :
    HoldsOfParts options fun _ (pass _ : Pass ε _) => pass.IgnoresRefusals where
  give _ := trivial
  refuse _ := trivial
  note _ _ _ ignores := ignores
  bind := .bind
  isCritical := isCritical_ignoresRefusals options

/-! ## Carried out on two documents -/

variable {first second : Document ε} {refused : Set String} [DecidablePred (· ∈ refused)]

/-- A pass that does not mind refusals ends alike on both documents and, but for the reports of
refusals, takes the same steps. -/
theorem IgnoresRefusals.perform_eq {pass : Pass ε α} (ignores : pass.IgnoresRefusals)
    (differ : first.RefusesWhere second refused) :
    (first.perform pass).outcome = (second.perform pass).outcome ∧
      (first.perform pass).steps.filter (!·.reportsRefusal refused) =
        (second.perform pass).steps.filter (!·.reportsRefusal refused) := by
  induction pass with
  | done outcome => exact ⟨rfl, rfl⟩
  | note event rest ih =>
      obtain ⟨sameOutcome, sameSteps⟩ := ih ignores
      refine ⟨sameOutcome, ?_⟩
      simp only [Document.perform_note, Transcript.steps_after, List.filter_append, sameSteps]
  | query selector next ih =>
      obtain ⟨onward, refusal⟩ := ignores
      by_cases isRefused : selector ∈ refused
      · obtain ⟨named, refuses⟩ := differ.refuses selector isRefused
        obtain ⟨original, same⟩ := refusal named
        -- the first document goes the way of the second, one report later
        obtain ⟨sameOutcome, sameSteps⟩ := ih (.ok []) (onward (.ok []))
        have left : [(.reported (.droppedSelector original selector) : PassStep ε)].filter
            (!·.reportsRefusal refused) = [] := by
          simp [PassStep.reportsRefusal, isRefused]
        simp only [Document.perform_query, refuses, differ.selectsNothing selector isRefused, same,
          Document.perform_note]
        refine ⟨sameOutcome, ?_⟩
        simp only [Transcript.steps_after, List.filter_append, left, List.nil_append, sameSteps]
      · obtain ⟨sameOutcome, sameSteps⟩ := ih _ (onward (second.query selector))
        simp only [Document.perform_query, differ.query selector isRefused]
        refine ⟨sameOutcome, ?_⟩
        simp only [Transcript.steps_after, List.filter_append, sameSteps]
  | top clear element next ih =>
      obtain ⟨sameOutcome, sameSteps⟩ := ih _ (ignores (second.top clear element))
      simp only [Document.perform_top, differ.top clear element]
      refine ⟨sameOutcome, ?_⟩
      simp only [Transcript.steps_after, List.filter_append, sameSteps]
  | position element next ih =>
      obtain ⟨sameOutcome, sameSteps⟩ := ih _ (ignores (second.position element))
      simp only [Document.perform_position, differ.position element]
      refine ⟨sameOutcome, ?_⟩
      simp only [Transcript.steps_after, List.filter_append, sameSteps]

/-- Both documents are asked the same. -/
theorem IgnoresRefusals.questions_eq {pass : Pass ε α} (ignores : pass.IgnoresRefusals)
    (differ : first.RefusesWhere second refused) :
    first.questions pass = second.questions pass := by
  have questions (steps : List (PassStep ε)) : steps.filter PassStep.isQuestion =
      (steps.filter (!·.reportsRefusal refused)).filter PassStep.isQuestion := by
    rw [List.filter_filter]
    refine List.filter_congr fun step _ => ?_
    cases isQuestion : step.isQuestion with
    | true => simp [PassStep.reportsRefusal_of_isQuestion isQuestion]
    | false => rfl
  obtain ⟨-, sameSteps⟩ := ignores.perform_eq differ
  rw [Document.questions, Document.questions, questions, sameSteps, ← questions]

/-- A pass that does not mind refusals and ends on faults has none from a refusal. -/
theorem EndsOnFault.causes {document : Document ε} {refused : Set String} {pass : Pass ε α}
    {fault : Fault} (ends : pass.EndsOnFault) (ignores : pass.IgnoresRefusals)
    (refuses : ∀ selector ∈ refused, ∃ named,
      document.query selector = .error (.invalidSelector named))
    (failed : (document.perform pass).outcome = .error fault) :
    document.Causes refused (document.perform pass).steps fault := by
  induction pass with
  | done outcome => exact .misfit (ends fault failed)
  | note event rest ih => exact (ih ends ignores failed).mono fun step => List.mem_cons_of_mem _
  | query selector next ih =>
      obtain ⟨found, ended⟩ := ends
      obtain ⟨onward, refusal⟩ := ignores
      rw [Document.perform_query] at failed ⊢
      cases reply : document.query selector with
      | ok elements =>
          rw [reply] at failed
          refine (ih _ (found elements) (onward _) failed).mono fun step => ?_
          exact List.mem_cons_of_mem _
      | error answered =>
          rw [reply] at failed
          rcases ended answered with finishes | ⟨⟨named, rfl⟩, goesOn⟩
          · rw [finishes] at failed
            cases failed
            refine .query (?_ : selector ∉ refused) (by simp) reply
            intro isRefused
            obtain ⟨named, refuses⟩ := refuses selector isRefused
            obtain ⟨original, same⟩ := refusal named
            rw [refuses] at reply
            cases reply
            rw [same] at finishes
            cases finishes
          · refine (ih _ goesOn (onward _) failed).mono fun step => ?_
            exact List.mem_cons_of_mem _
  | top clear element next ih =>
      obtain ⟨measured, ended⟩ := ends
      rw [Document.perform_top] at failed ⊢
      cases reply : document.top clear element with
      | ok top =>
          rw [reply] at failed
          refine (ih _ (measured top) (ignores _) failed).mono fun step => ?_
          exact List.mem_cons_of_mem _
      | error answered =>
          rw [reply, ended] at failed
          cases failed
          exact .top (by simp) reply
  | position element next ih =>
      obtain ⟨measured, ended⟩ := ends
      rw [Document.perform_position] at failed ⊢
      cases reply : document.position element with
      | ok position =>
          rw [reply] at failed
          refine (ih _ (measured position) (ignores _) failed).mono fun step => ?_
          exact List.mem_cons_of_mem _
      | error answered =>
          rw [reply, ended] at failed
          cases failed
          exact .position (by simp) reply

omit [DecidablePred (· ∈ refused)] in
/-- A selector that is looked up by a refused one is not critical. -/
theorem isCriticalText_of_refused (differ : first.RefusesWhere second refused) {options : Options}
    {selector reduced : String} (unsettled : ¬options.Settle selector)
    (reduction : Selector.reduce selector = some reduced) (isRefused : reduced ∈ refused) :
    (first.perform (isCriticalText options selector)).outcome = .ok false := by
  obtain ⟨next, asks, dropped⟩ := isCriticalText_of_unsettled (ε := ε) unsettled reduction
  obtain ⟨named, refuses⟩ := differ.refuses reduced isRefused
  rw [asks, Document.perform_query, refuses, dropped]
  rfl

/-- It makes no difference to pruning whether some selectors are refused or select nothing. -/
structure IsIndifferent (first second : Document ε) (refused : Set String)
    [DecidablePred (· ∈ refused)] (options : Options) (rules : Value) : Prop where
  outcome : (first.perform (prune options rules)).outcome =
    (second.perform (prune options rules)).outcome
  questions : first.questions (prune options rules) = second.questions (prune options rules)
  steps : (first.perform (prune options rules)).steps.filter (!·.reportsRefusal refused) =
    (second.perform (prune options rules)).steps.filter (!·.reportsRefusal refused)
  /-- All that differs is reported for debugging. -/
  reports : ∀ step ∈ (first.perform (prune options rules)).steps ++
      (second.perform (prune options rules)).steps,
    step.reportsRefusal refused = true → ∃ event, step = .reported event ∧ event.level = .debug
  /-- No refusal ends the pass. -/
  causes : ∀ fault, (first.perform (prune options rules)).outcome = .error fault →
    first.Causes refused (first.perform (prune options rules)).steps fault
  /-- Each selector is critical on both documents or on neither. -/
  criticality : ∀ selector, (first.perform (isCritical options selector)).outcome =
    (second.perform (isCritical options selector)).outcome
  /-- What is refused is not critical. -/
  notCritical : ∀ selector reduced, ¬options.Settle selector →
    Selector.reduce selector = some reduced → reduced ∈ refused →
    (first.perform (isCriticalText options selector)).outcome = .ok false

/-- Pruning takes selectors that are refused like selectors that select nothing: whatever the rules
are, it ends alike and asks the same, and only reports for debugging tell the two apart.  A fault
that ends it has another cause than a refusal.  Selectors that are refused are not critical, and
have no bearing on whether others are. -/
theorem prune_ignores_refusals (differ : first.RefusesWhere second refused) (options : Options)
    (rules : Value) : IsIndifferent first second refused options rules := by
  have ignores : (prune options rules : Pass ε _).IgnoresRefusals :=
    (ignoresRefusals_holdsOfParts options).prune rules
  have ends : (prune options rules : Pass ε _).EndsOnFault := prune_endsOnFault options rules
  obtain ⟨sameOutcome, sameSteps⟩ := ignores.perform_eq differ
  exact {
    outcome := sameOutcome
    questions := ignores.questions_eq differ
    steps := sameSteps
    reports := fun _ _ reports => PassStep.debug_of_reportsRefusal reports
    causes := fun _ failed => ends.causes ignores differ.refuses failed
    criticality := fun selector =>
      ((isCritical_ignoresRefusals options selector).perform_eq differ).1
    notCritical := fun _ _ unsettled reduction isRefused =>
      isCriticalText_of_refused differ unsettled reduction isRefused }

end Pass

/-- A page that refuses selectors of which it has no elements differs in nothing but the refusals
from the same page without them. -/
theorem Snapshot.refusesWhere (snapshot : Snapshot)
    (unknown : ∀ selector ∈ snapshot.invalid, snapshot.failing.lookup selector = none ∧
      snapshot.selected.lookup selector = none) :
    snapshot.document.RefusesWhere (document { snapshot with invalid := [] })
      {selector | selector ∈ snapshot.invalid} where
  refuses selector isRefused := by
    have isInvalid : selector ∈ snapshot.invalid := isRefused
    exact ⟨selector, by simp [document, query, isInvalid]⟩
  selectsNothing selector isRefused := by
    obtain ⟨notFailing, notSelected⟩ := unknown selector isRefused
    simp [document, query, notFailing, notSelected, locate]
  query selector other := by
    have isValid : selector ∉ snapshot.invalid := other
    simp [document, query, isValid]
  top _ _ := rfl
  position _ := rfl

/-- A page that refuses two selectors, and on which a look-up and a measurement fail. -/
def crookedPage : Snapshot where
  selected := [(".hero", [⟨.ok (.ofInt 50), .ok (.text "static")⟩]),
    (".frail", [⟨.error (.browserCall "gone"), .ok (.text "static")⟩])]
  invalid := ["a:hover(", ".5"]
  failing := [(".lost", .browserCall "lost")]

/-- Refused selectors among others and in a group, in front of one whose elements fail. -/
def crookedSelectors : Value :=
  .list [.object [("type", .text "rule"),
      ("selectors", .list [.text "a:hover(", .text ".hero", .text ".5::before"])],
    .object [("type", .text "media"), ("rules", .list [.object [("type", .text "rule"),
      ("selectors", .list [.text ".5", .text ".frail", .text ".hero"])]])]]

theorem crookedPage_isIndifferent :
    crookedPage.document.RefusesWhere (Snapshot.document { crookedPage with invalid := [] })
        {selector | selector ∈ crookedPage.invalid} ∧
      (crookedPage.document.questions (Pass.prune Options.plain crookedSelectors)).length = 7 ∧
      Pass.IsIndifferent crookedPage.document (Snapshot.document { crookedPage with invalid := [] })
        {selector | selector ∈ crookedPage.invalid} Options.plain crookedSelectors :=
  have differ := crookedPage.refusesWhere (by decide)
  ⟨differ, by decide +kernel, Pass.prune_ignores_refusals differ Options.plain crookedSelectors⟩

end CriticalCss
