import CriticalCss.Proofs.Browser.Lookup
import CriticalCss.Proofs.Browser.Navigation
import CriticalCss.Proofs.Extraction.Checks

/-!
# An extraction prunes with what the page shows

An extraction works on handles in a browser, among other calls and with handles that may be
gone when they are released.  What it gives, and what it asks the page, is what pruning
gives and asks on the document in which every selector finds the same elements in order.
-/

namespace CriticalCss

/-- The question that a step of a pass on a document asks. -/
def PassStep.question? : PassStep Located → Option Browser.Question
  | .queried selector => some (.elements selector)
  | .measured clear element => some (.top clear element.selector (toString element.index))
  | .positioned element => some (.position element.selector (toString element.index))
  | .reported _ => none

namespace Browser

open Activity

/-! ## Asking in parts -/

section

variable {σ α β : Type} {outcome : Except Fault α} {questions : List Question}

/-- An activity that starts in a state asks some questions and ends with an outcome. -/
structure Asks (activity : Activity σ Step α) (state : σ) (outcome : Except Fault α)
    (questions : List Question) : Prop where
  outcome : (activity state).outcome = outcome
  questions : (activity state).steps.filterMap Step.question? = questions

/-- What happens before silently does not matter. -/
theorem Asks.after_silent {first : Activity σ Step β} {next : β → Activity σ Step α} {state : σ}
    {result : β} (silent : first.Keeps Step.IsSilent unseen)
    (ok : (first state).outcome = .ok result)
    (asks : Asks (next result) (first state).state outcome questions) :
    Asks (first.bind next) state outcome questions := by
  have noQuestions := questions_eq_nil (silent state).1
  constructor
  · rw [bind_of_ok ok, Transcript.outcome_after, asks.outcome]
  · rw [bind_of_ok ok, Transcript.steps_after, List.filterMap_append, noQuestions,
      asks.questions, List.nil_append]

/-- What happens afterwards does not matter if it is silent and passes the result on. -/
theorem Asks.then_silent {activity : Activity σ Step α} {next : α → Activity σ Step α}
    {state : σ} (asks : Asks activity state outcome questions)
    (silent : ∀ result, (next result).Keeps Step.IsSilent unseen)
    (passes : ∀ result state, (next result state).outcome = .ok result) :
    Asks (activity.bind next) state outcome questions := by
  cases ends : (activity state).outcome with
  | ok result =>
      have noQuestions := questions_eq_nil (silent result (activity state).state).1
      constructor
      · rw [bind_of_ok ends, Transcript.outcome_after, passes, ← asks.outcome, ends]
      · rw [bind_of_ok ends, Transcript.steps_after, List.filterMap_append, noQuestions,
          asks.questions, List.append_nil]
  | error fault =>
      rw [← asks.outcome, ← asks.questions, ends]
      constructor <;> rw [bind_of_error ends]

/-- A step that asks something comes first among the questions. -/
theorem Asks.of_step {activity rest : Activity σ Step α} {state next : σ} {step : Step}
    {question : Question} (split : activity state = (rest next).after [step])
    (asked : step.question? = some question) (asks : Asks rest next outcome questions) :
    Asks activity state outcome (question :: questions) := by
  constructor
  · rw [split, Transcript.outcome_after, asks.outcome]
  · rw [split, Transcript.steps_after, List.filterMap_append, asks.questions,
      List.filterMap_cons_some asked]
    rfl

/-- Tidying up does not matter if it is silent. -/
theorem Asks.ensuring {activity : Activity σ Step α} {tidying : Tidying σ Step} {state : σ}
    (asks : Asks activity state outcome questions)
    (silent : Tidying.Keeps Step.IsSilent unseen tidying) :
    Asks (activity.ensuring tidying) state outcome questions := by
  have noQuestions := questions_eq_nil (silent (activity state).state).1
  refine ⟨asks.outcome, ?_⟩
  rw [ensuring_apply, List.filterMap_append, noQuestions, asks.questions, List.append_nil]

end

/-- In a session that could be started, only what is done in it matters. -/
theorem Asks.inSession {α : Type} {outcome : Except Fault α} {questions : List Question}
    {settings : Settings} {machine : Machine} {deed : Deed α} {state : State}
    (started : (start settings machine state).outcome = .ok ())
    (asks : Asks deed (start settings machine state).state outcome questions) :
    Asks (inSession settings machine deed) state outcome questions :=
  Asks.after_silent (silent_of_keeps (start_outside settings machine)) started
    (asks.ensuring (stop_silent machine))

/-! ## A pass on a page -/

namespace Page

/-- Measuring the top of an element is one call; what it gives is read as a double. -/
theorem top_apply (clear : String) (element : Element) (live : List Handle) :
    top clear element live =
      ⟨element.box.top.bind toReal, [.called (.measureTop element.handle clear)], live⟩ := by
  cases measured : element.box.top with
  | error fault =>
      simp only [top, measured]
      rfl
  | ok value =>
      simp only [top, measured]
      rfl

/-- Measuring the top of an element gives what the element has, if that is a double. -/
theorem top_eq {element : Element} {located : Located} (stands : Stands element located)
    (clear : String) (live : List Handle) :
    top clear element live =
      ⟨located.box.top, [.called (.measureTop element.handle clear)], live⟩ := by
  rw [top_apply, stands.box]
  cases measured : located.box.top with
  | error fault => rfl
  | ok value =>
      obtain ⟨real, rfl⟩ := stands.real value measured
      rfl

/-- Two passes that do alike, one on a page and one on the document of its findings, come to
the same outcome and ask the same. -/
theorem run_asks {content : Content} {find : String → Finding} {α : Type}
    (presents : ∀ selector, Presents content selector (find selector))
    {pass : Pass Element α} {plain : Pass Located α} (alike : Pass.Alike Stands pass plain)
    (live : List Handle) :
    Asks (pass.run (responder content)) live ((Document.ofFindings find).perform plain).outcome
      (((Document.ofFindings find).perform plain).steps.filterMap PassStep.question?) := by
  induction alike generalizing live with
  | done outcome => exact ⟨rfl, rfl⟩
  | note event _ ih => exact ⟨(ih live).outcome, (ih live).questions⟩
  | @query selector next plainNext _ _ ih =>
      have asks := ih _ _ (query_sameReply (presents selector) live)
        (query content selector live).state
      refine ⟨asks.outcome, ?_⟩
      rw [Document.perform_query, Transcript.steps_after, List.filterMap_append]
      have split : ((Pass.query selector next).run (responder content) live).steps =
          (query content selector live).steps ++
            ((next (query content selector live).outcome).run (responder content)
              (query content selector live).state).steps := rfl
      rw [split, List.filterMap_append, questions_query, asks.questions]
      rfl
  | @top clear element located next plainNext stands _ ih =>
      have split : (Pass.top clear element next).run (responder content) live =
          ((next located.box.top).run (responder content) live).after
            [.called (.measureTop element.handle clear)] := by
        simp only [Pass.run, responder, observe]
        rw [top_eq stands]
      refine Asks.of_step split ?_ (ih located.box.top live)
      rw [Step.question?, stands.selector, stands.key]
  | @position element located next plainNext stands _ ih =>
      have split : (Pass.position element next).run (responder content) live =
          ((next located.box.position).run (responder content) live).after
            [.called (.measurePosition element.handle)] := by
        rw [← stands.box]
        rfl
      refine Asks.of_step split ?_ (ih located.box.position live)
      rw [Step.question?, stands.selector, stands.key]

end Page

end Browser

namespace Extraction

open Activity Browser

variable {find : String → Finding} {options : Options} {rules : Value}

/-- Classifying a page asks what pruning asks on the document of its findings. -/
theorem classify_asks {content : Content}
    (presents : ∀ selector, Presents content selector (find selector))
    (convertible : options.settleDelay.hasSeconds = true) :
    Asks (classify options content rules) []
      ((Document.ofFindings find).perform (Pass.prune options rules)).outcome
      (((Document.ofFindings find).perform (Pass.prune options rules)).steps.filterMap
        PassStep.question?) := by
  have waits : (wait options.settleDelay : Browser.Page.Deed Unit) =
      take (.waited options.settleDelay) := if_pos convertible
  refine Asks.ensuring ?_ Browser.Page.releaseAll_silent
  refine Asks.after_silent (report_silent _) rfl ?_
  refine Asks.after_silent (waits ▸ keeps_take rfl) (by rw [waits]; rfl) ?_
  refine Asks.after_silent (report_silent _) rfl ?_
  refine Asks.then_silent (Browser.Page.run_asks presents (Pass.prune_alike options rules) _) ?_ ?_
  · exact fun _ => (report_silent _).bind fun _ => keeps_ofOutcome _
  · exact fun _ _ => rfl

/-- Starts a session and opens an address in it. -/
def arrive (world : World) (settings : Browser.Settings) (url : String) : Deed (Option Int) :=
  (start settings world.machine).bind fun _ => navigate settings url world.course

/-- What is done in a page that could be opened counts, and nothing around it. -/
theorem carryOut_asks {world : World} {order : Order} {state : State} {status : Option Int}
    (arrives : (arrive world order.settings order.url state).outcome = .ok status)
    {outcome : Except Fault (List Value)} {questions : List Question}
    (asks : Asks (classify order.options world.content order.rules) [] outcome questions) :
    Asks (carryOut world order) state outcome questions := by
  cases started : (start order.settings world.machine state).outcome with
  | error fault =>
      rw [arrive, bind_of_error started] at arrives
      cases arrives
  | ok result =>
      rw [arrive, bind_of_ok started, Transcript.outcome_after] at arrives
      have sameOpened := (navigate_outside order.settings order.url world.course
        (start order.settings world.machine state).state).2
      have stillOpen := page_of_navigate arrives
      rw [← sameOpened] at stillOpen
      have inPage : Asks
          ((navigate order.settings order.url world.course).bind fun _ =>
            requirePage.bind fun _ =>
              within [] (classify order.options world.content order.rules))
          (start order.settings world.machine state).state outcome questions := by
        have required := requirePage_apply stillOpen
        refine Asks.after_silent (silent_of_keeps (navigate_outside _ _ _)) arrives ?_
        refine Asks.after_silent requirePage_keeps (by rw [required]) ?_
        exact ⟨asks.outcome, asks.questions⟩
      unfold carryOut
      refine (inPage.inSession started).then_silent (fun kept => ?_) fun _ _ => rfl
      exact (report_silent _).bind fun _ => keeps_ofOutcome _

/-- An extraction from a page that could be opened gives what pruning gives on the document
of its findings, and asks the page what pruning asks, up to the same end. -/
theorem extract_eq_prune {world : World} {url : String} {settings : Settings}
    {browser : Browser.Settings} {state : State} {status : Option Int}
    (addressed : url.isEmpty = false) (optionsAre : settings.options = .ok options)
    (browserIs : settings.browser = .ok browser)
    (accepted : Stylesheet.validateRules rules = .ok ())
    (convertible : options.settleDelay.hasSeconds = true)
    (arrives : (arrive world browser url state).outcome = .ok status)
    (presents : ∀ selector, Presents world.content selector (find selector)) :
    (extract world url settings rules state).outcome =
        ((Document.ofFindings find).perform (Pass.prune options rules)).outcome ∧
      (extract world url settings rules state).steps.filterMap Step.question? =
        ((Document.ofFindings find).perform (Pass.prune options rules)).steps.filterMap
          PassStep.question? := by
  have checked : check url settings rules = .ok ⟨url, options, browser, rules⟩ := by
    simp only [check, addressed, optionsAre, browserIs, accepted]
    rfl
  have carried : extract world url settings rules state =
      carryOut world ⟨url, options, browser, rules⟩ state := by
    simp only [extract, checked]
    rfl
  have asks := @carryOut_asks world ⟨url, options, browser, rules⟩ state status arrives _ _
    (classify_asks presents convertible)
  rw [carried]
  exact ⟨asks.outcome, asks.questions⟩

/-! ## An instance -/

/-- The handle of a member of an array of two elements; the first is gone when it is
released. -/
def memberOfTwo (index : Nat) (box : Box) : Handle :=
  ⟨".hero", toString index, some box, index == 0⟩

/-- An element far below the first screen. -/
def lowBox : Box := ⟨.ok (.number (.real (.ofInt 5000))), .ok (.text "static")⟩

/-- An element that is fixed there. -/
def fixedBox : Box := ⟨.ok (.number (.real (.ofInt 5000))), .ok (.text "fixed")⟩

/-- A page with two elements, which are listed from the back and among other properties, and
with a selector that it refuses. -/
def jumbledWorld : World where
  machine := ⟨none, none, none, [.page]⟩
  course := ⟨[], [], .arrived (some 200)⟩
  content :=
    { evaluation := fun selector =>
        if selector = ".a(" then some "'.a(' is not a valid selector" else none
      listing := fun selector => .ok <|
        if selector = ".hero" then
          [⟨".hero", "length", none, false⟩, memberOfTwo 1 fixedBox,
            ⟨".hero", "item", some lowBox, true⟩, memberOfTwo 0 lowBox]
        else [] }

/-- What the selectors find there. -/
def jumbledFindings (selector : String) : Finding :=
  if selector = ".a(" then .malformed
  else .elements (if selector = ".hero" then [lowBox, fixedBox] else [])

theorem jumbledWorld_presents (selector : String) :
    Presents jumbledWorld.content selector (jumbledFindings selector) := by
  unfold jumbledFindings
  split
  next refused =>
    have complaint : jumbledWorld.content.evaluation selector =
        some "'.a(' is not a valid selector" := if_pos refused
    exact .malformed complaint (by decide +kernel)
  next accepted =>
    have evaluated : jumbledWorld.content.evaluation selector = none := if_neg accepted
    split
    next isHero =>
      have listed : jumbledWorld.content.listing selector = .ok
          [⟨".hero", "length", none, false⟩, memberOfTwo 1 fixedBox,
            ⟨".hero", "item", some lowBox, true⟩, memberOfTwo 0 lowBox] := by
        simp [jumbledWorld, isHero]
      have members : ([⟨".hero", "length", none, false⟩, memberOfTwo 1 fixedBox,
            ⟨".hero", "item", some lowBox, true⟩, memberOfTwo 0 lowBox].filter
              Handle.isMember).Perm
          ([lowBox, fixedBox].mapIdx fun index box =>
            ⟨".hero", toString index, some box, index == 0⟩) :=
        .swap (memberOfTwo 0 lowBox) (memberOfTwo 1 fixedBox) []
      rw [isHero] at evaluated listed ⊢
      exact .elements evaluated listed members (by decide +kernel) (by simp [lowBox, fixedBox])
    next other =>
      have listed : jumbledWorld.content.listing selector = .ok [] := by
        simp [jumbledWorld, other]
      have members : (([] : List Handle).filter Handle.isMember).Perm
          (([] : List Box).mapIdx fun index box =>
            ⟨selector, toString index, some box, false⟩) := .refl []
      exact .elements evaluated listed members (by simp) (by simp)

/-- A rule with a selector that finds elements and with one that is refused. -/
def jumbledRules : Value :=
  .list [.object [("type", .text "rule"), ("selectors", .list [.text ".hero", .text ".a("])]]

theorem jumbledWorld_arrives :
    (arrive jumbledWorld .standard "https://example.org" (.initial [] [])).outcome =
      .ok (some 200) := by
  have arrived : (arrive jumbledWorld .standard "https://example.org"
      (.initial [] [])).outcome.toOption = some (some 200) := by decide +kernel
  revert arrived
  cases (arrive jumbledWorld .standard "https://example.org" (.initial [] [])).outcome with
  | ok status =>
      rintro ⟨⟩
      rfl
  | error fault => exact fun failed => nomatch failed

theorem jumbledWorld_extract_eq_prune :
    Settings.standard.options = .ok .plain ∧
      (arrive jumbledWorld .standard "https://example.org" (.initial [] [])).outcome =
        .ok (some 200) ∧
      (∀ selector, Presents jumbledWorld.content selector (jumbledFindings selector)) ∧
      (extract jumbledWorld "https://example.org" .standard jumbledRules
        (.initial [] [])).outcome =
        ((Document.ofFindings jumbledFindings).perform (Pass.prune .plain jumbledRules)).outcome :=
  have accepted : Stylesheet.validateRules jumbledRules = .ok () := by rfl
  have convertible : Options.plain.settleDelay.hasSeconds = true := by decide +kernel
  ⟨standard_options, jumbledWorld_arrives, jumbledWorld_presents,
    (extract_eq_prune (by decide) standard_options standard_browser accepted convertible
      jumbledWorld_arrives jumbledWorld_presents).1⟩

end Extraction

end CriticalCss
