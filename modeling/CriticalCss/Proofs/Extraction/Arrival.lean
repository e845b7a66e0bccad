import CriticalCss.Proofs.Browser.Blame
import CriticalCss.Proofs.Extraction.Order

/-!
# What arriving decides

Once an extraction opens its address, how the address arrives decides everything.  An interruption
and a failure end it, and the page is never asked for elements.  An address that arrives is
classified, whatever the status of the answer is: a page that says that there is nothing under
this address is taken for the page that has been asked for.
-/

namespace CriticalCss

namespace Browser

/-- A failure to open an address is one of navigation if there is anything to report about it. -/
theorem navigationFault_label {url report : String} {failure : Option ResourceFailure}
    (told : report = "" → failure ≠ none) :
    (navigationFault url report failure).label = "NavigationError" := by
  obtain ⟨reason, resource, blamed⟩ : ∃ reason resource,
      navigationFault url report failure = .navigationFailed url reason resource :=
    navigationFault_of_told (or_iff_not_imp_left.mpr fun quiet => told (not_not.mp quiet))
  rw [blamed]
  rfl

end Browser

namespace Extraction

open Activity Browser

theorem url_of_check {url : String} {settings : Settings} {rules : Value} {order : Order}
    (checked : check url settings rules = .ok order) : order.url = url := by
  rw [check] at checked
  split at checked
  · cases checked
  · obtain ⟨_, _, checked⟩ := exists_ok_of_bind checked
    obtain ⟨_, _, checked⟩ := exists_ok_of_bind checked
    obtain ⟨_, _, checked⟩ := exists_ok_of_bind checked
    cases checked
    rfl

/-- The arrival of its address decides how an extraction ends, and whether the page is asked for
elements. -/
structure IsDecided (world : World) (order : Order) (ran : Transcript State Step (List Value)) :
    Prop where
  interrupted : world.course.arrival = .interrupted → ran.outcome = .error .interrupted
  lost : ∀ report, world.course.arrival = .failed report → ∃ failure,
    ran.outcome = .error (navigationFault (Url.quote order.url) report failure) ∧
      ((report = "" → failure ≠ none) →
        (navigationFault (Url.quote order.url) report failure).label = "NavigationError")
  arrived : ∀ status, world.course.arrival = .arrived status →
    ran.outcome = (classify order.options world.content order.rules []).outcome
  asked : ∀ selector, .called (.evaluate selector) ∈ ran.steps ↔
    (∃ status, world.course.arrival = .arrived status) ∧
      .called (.evaluate selector) ∈ (classify order.options world.content order.rules []).steps

section

variable {world : World} {order : Order} {state : State}
  {ran : Transcript State Step (List Value)}

/-- An extraction that opens its address fails there and leaves the page alone, or it arrives and
asks the page for what classifying it asks for. -/
theorem Course.lost_or_arrived (course : Course world order state ran) {target : String}
    {waitUntil timeout : Value} (visited : .called (.visit target waitUntil timeout) ∈ ran.steps) :
    (∃ failure fault,
        world.course.arrival.result (Url.quote order.url) failure = .error fault ∧
        ran.outcome = .error fault ∧ ∀ step ∈ ran.steps, step.IsOutside) ∨
      ∃ status, world.course.arrival = .arrived status ∧
        ran.outcome = (classify order.options world.content order.rules []).outcome ∧
        ∀ selector, .called (.evaluate selector) ∈ ran.steps ↔
          .called (.evaluate selector) ∈
            (classify order.options world.content order.rules []).steps := by
  have starts := (start_outside order.settings world.machine state).1
  cases course with
  | @unstarted session fault sessionIs failed =>
      subst sessionIs
      exact ((start_ofSession order.settings world.machine state).1 _ visited).elim
  | @unopened session opening fault sessionIs started openingIs failed =>
      left
      have isOpen : session.state.opened.has .page = true := by
        rw [← sessionIs] at started ⊢
        rw [opened_of_start started]
        rfl
      have result := navigate_outcome isOpen order.settings order.url world.course
      have opens := (navigate_outside order.settings order.url world.course session.state).1
      have stops := (stop_outside world.machine opening.state).1
      rw [sessionIs] at starts
      rw [openingIs] at opens result
      rw [failed] at result
      refine ⟨lastFailure? world.course.events, fault, result.symm, rfl, ?_⟩
      simp only [List.forall_mem_append]
      exact ⟨starts, opens, stops⟩
  | @classified session opening status pass sessionIs started openingIs arrives passIs =>
      right
      have opens := (navigate_outside order.settings order.url world.course session.state).1
      have stops := (stop_outside world.machine opening.state).1
      rw [sessionIs] at starts
      rw [openingIs] at opens
      obtain ⟨_, _, _, _, reached, arrival, -⟩ : IsArrival world.course opening.steps := by
        rw [← openingIs] at arrives ⊢
        exact navigate_isArrival arrives
      refine ⟨reached, arrival, by rw [passIs], fun selector => ?_⟩
      have notBefore := not_mem_of_outside starts selector
      have notThen := not_mem_of_outside opens selector
      have notAfter := not_mem_of_outside stops selector
      have notLast := not_mem_of_outside (conclusion_outside order.url pass.outcome) selector
      simp only [List.mem_append, notBefore, notThen, notAfter, notLast, false_or, or_false, passIs]

/-- An extraction that opens its address is decided by how that arrives. -/
theorem Course.isDecided (course : Course world order state ran) {target : String}
    {waitUntil timeout : Value} (visited : .called (.visit target waitUntil timeout) ∈ ran.steps) :
    IsDecided world order ran := by
  rcases course.lost_or_arrived visited with ⟨failure, fault, result, outcome, outside⟩ |
    ⟨status, arrived, outcome, asked⟩
  · constructor
    · intro arrival
      rw [arrival] at result
      cases result
      exact outcome
    · intro report arrival
      rw [arrival] at result
      cases result
      exact ⟨failure, outcome, navigationFault_label⟩
    · intro status arrival
      rw [arrival] at result
      cases result
    · intro selector
      constructor
      · intro asked
        exact absurd asked (not_mem_of_outside outside selector)
      · rintro ⟨⟨status, arrival⟩, -⟩
        rw [arrival] at result
        cases result
  · constructor
    · intro interrupted
      rw [arrived] at interrupted
      cases interrupted
    · intro report lost
      rw [arrived] at lost
      cases lost
    · intro _ _
      exact outcome
    · intro selector
      rw [asked]
      exact ⟨fun held => ⟨⟨status, arrived⟩, held⟩, fun held => held.2⟩

/-- Rules are left only if the address has arrived. -/
theorem Course.arrived_of_ok (course : Course world order state ran) {kept : List Value}
    (ok : ran.outcome = .ok kept) : ∃ status, world.course.arrival = .arrived status := by
  cases course with
  | unstarted _ _ => cases ok
  | unopened _ _ _ _ => cases ok
  | classified _ _ openingIs arrives _ =>
      rw [← openingIs] at arrives
      obtain ⟨_, _, _, _, status, arrival, -⟩ := navigate_isArrival arrives
      exact ⟨status, arrival⟩

end

/-- The arrival of its address decides what comes of an extraction.  Once the address is opened, an
interruption and a failure end the extraction as they are, while an address that arrives is classified
whatever its status is.  Without an arrival no rules are left, and no page is asked for elements. -/
theorem arrival_decides (world : World) (url : String) (settings : Settings) (rules : Value)
    (state : State) :
    (∀ target waitUntil timeout, .called (.visit target waitUntil timeout) ∈
        (extract world url settings rules state).steps →
      ∃ order, check url settings rules = .ok order ∧ order.url = url ∧
        IsDecided world order (extract world url settings rules state)) ∧
      (∀ kept, (extract world url settings rules state).outcome = .ok kept →
        ∃ status, world.course.arrival = .arrived status) ∧
      ∀ selector, .called (.evaluate selector) ∈ (extract world url settings rules state).steps →
        ∃ status, world.course.arrival = .arrived status := by
  cases checked : check url settings rules with
  | error fault =>
      rw [extract_of_error checked]
      refine ⟨?_, ?_, ?_⟩
      · rintro target waitUntil timeout ⟨⟩
      · rintro kept ⟨⟩
      · rintro selector ⟨⟩
  | ok order =>
      rw [extract_of_ok checked]
      have course := carryOut_course world order state
      exact ⟨fun _ _ _ visited => ⟨order, rfl, url_of_check checked, course.isDecided visited⟩,
        fun _ => course.arrived_of_ok, fun _ => course.arrived_of_asked⟩

/-- A page that says that there is nothing under its address, with an element on the first screen. -/
def notFoundWorld : World where
  machine := ⟨none, none, none, []⟩
  course := ⟨[], [], .arrived (some 404)⟩
  content :=
    { evaluation := fun _ => none
      listing := fun selector => .ok
        [⟨selector, "0", some ⟨.ok (.ofInt 50), .ok (.text "static")⟩, false⟩] }

/-- A rule for that element. -/
def heroRules : Value :=
  .list [.object [("type", .text "rule"), ("selectors", .list [.text ".hero"])]]

/-- What an extraction of that rule from that page comes to. -/
def notFoundRun : Transcript State Step (List Value) :=
  extract notFoundWorld "https://example.org/" .standard heroRules (.initial [] [])

/-- The step opens an address. -/
def isVisit : Step → Bool
  | .called (.visit _ _ _) => true
  | _ => false

theorem notFoundRun_visits :
    ∃ target waitUntil timeout, .called (.visit target waitUntil timeout) ∈ notFoundRun.steps := by
  have visits : notFoundRun.steps.any isVisit = true := by decide +kernel
  obtain ⟨step, member, opens⟩ := List.any_eq_true.mp visits
  unfold isVisit at opens
  split at opens
  next target waitUntil timeout => exact ⟨target, waitUntil, timeout, member⟩
  next => cases opens

theorem notFoundRun_outcome : ∃ kept, notFoundRun.outcome = .ok kept ∧ kept.length = 1 := by
  have leaves : notFoundRun.outcome.toOption.map List.length = some 1 := by decide +kernel
  exact exists_ok_of_view leaves

theorem notFoundRun_decided :
    (∃ target waitUntil timeout, .called (.visit target waitUntil timeout) ∈ notFoundRun.steps) ∧
      (∃ kept, notFoundRun.outcome = .ok kept) ∧
      (∃ order, check "https://example.org/" .standard heroRules = .ok order ∧
        order.url = "https://example.org/" ∧ IsDecided notFoundWorld order notFoundRun) ∧
      ∃ status, notFoundWorld.course.arrival = .arrived status := by
  obtain ⟨target, waitUntil, timeout, visited⟩ := notFoundRun_visits
  obtain ⟨kept, succeeds, -⟩ := notFoundRun_outcome
  obtain ⟨decided, arrived, -⟩ := arrival_decides notFoundWorld "https://example.org/" .standard
    heroRules (.initial [] [])
  exact ⟨⟨target, waitUntil, timeout, visited⟩, ⟨kept, succeeds⟩,
    decided target waitUntil timeout visited, arrived kept succeeds⟩

/-- An address whose answer has the status of an error is classified like any other. -/
theorem error_status_is_classified :
    ¬∀ (world : World) (url : String) (settings : Settings) (rules : Value) (state : State),
      ((∃ report, world.course.arrival = .failed report) ∨
        ∃ status : Int, world.course.arrival = .arrived (some status) ∧ 400 ≤ status) →
      (∃ target waitUntil timeout, .called (.visit target waitUntil timeout) ∈
        (extract world url settings rules state).steps) →
      (∃ fault, (extract world url settings rules state).outcome = .error fault ∧
          fault.label = "NavigationError") ∧
        ∀ selector,
          .called (.evaluate selector) ∉ (extract world url settings rules state).steps := by
  intro fails
  have ⟨⟨fault, failed, _⟩, _⟩ := fails notFoundWorld "https://example.org/" .standard heroRules
    (.initial [] []) (.inr ⟨404, rfl, by decide⟩) notFoundRun_visits
  obtain ⟨kept, succeeds, -⟩ := notFoundRun_outcome
  rw [notFoundRun, failed] at succeeds
  cases succeeds

end Extraction

end CriticalCss
