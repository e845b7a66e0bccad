import CriticalCss.Proofs.Extraction.Checks
import CriticalCss.Proofs.Extraction.Faults
import CriticalCss.Proofs.Json.Documents

/-!
# The order of an extraction

Whatever is wrong with what is given shows before anything is asked of a browser, and nothing is
blamed on it afterwards.  Its fault is one of the input, except for a width that is not positive and
has more digits than a message can show, as no width has that has been read from a text.  The page
is asked for elements only after its address has been opened and it has been left to settle; if the
address cannot be opened, it is never asked, and the session is stopped all the same.
-/

namespace CriticalCss

theorem Fault.IsMishap.label_ne {fault : Fault} (mishap : fault.IsMishap) :
    fault.label ≠ "InputError" := by
  cases fault <;> first | (cases mishap; done) | simp [Fault.label, Fault.family]

/-! ## Checks -/

namespace Extraction

open Activity Browser

/-- What comes before a step that is not among the earlier ones includes all of these. -/
theorem prefix_of_split {τ : Type} {earlier later past future : List τ} {step : τ}
    (splits : earlier ++ later = past ++ step :: future) (absent : step ∉ earlier) :
    earlier <+: past := by
  rcases List.append_eq_append_iff.mp splits with ⟨between, rfl, -⟩ | ⟨between, rfl, rest⟩
  · exact List.prefix_append _ _
  · cases between with
    | nil => simp
    | cons first others =>
        cases rest
        exact absurd (by simp) absent

/-- Classifying begins with the wait, and without it nothing follows. -/
theorem classify_steps (options : Options) (content : Content) (rules : Value) :
    (classify options content rules []).steps = [.reported (.waiting options.settleDelay)] ∨
      ∃ rest, (classify options content rules []).steps =
        [.reported (.waiting options.settleDelay), .waited options.settleDelay] ++ rest := by
  cases convertible : options.settleDelay.hasSeconds with
  | false =>
      left
      have waits : (wait options.settleDelay : Browser.Page.Deed Unit) = fail .unending := by
        simp [wait, convertible]
      simp only [classify, waits]
      rfl
  | true =>
      right
      have waits : (wait options.settleDelay : Browser.Page.Deed Unit) =
          take (.waited options.settleDelay) := if_pos convertible
      simp only [classify, waits]
      exact ⟨_, rfl⟩

/-- In the past, the address has arrived, and after that the page has been left to settle for a
time. -/
def HasSettled (course : Visit) (delay : Number) (past : List Step) : Prop :=
  ∃ before opening after, IsArrival course opening ∧
    past = before ++ opening ++ [.reported (.waiting delay), .waited delay] ++ after

/-- After a step there is nothing but noise before a session that is open as a whole is stopped. -/
def StopsAfter (step : Step) (steps : List Step) : Prop :=
  ∃ before noise, steps = before ++ [step] ++ noise ++
      Part.all.reverse.map (fun part => .called (.close part)) ++ [.reported .sessionStopped] ∧
    ∀ step ∈ noise, step.isNoise = true

section

variable {world : World} {order : Order} {state : State}
  {ran : Transcript State Step (List Value)}

/-- Whoever touches nothing in a page does not ask it for elements. -/
theorem not_mem_of_outside {steps : List Step} (outside : ∀ step ∈ steps, step.IsOutside)
    (selector : String) : .called (.evaluate selector) ∉ steps :=
  fun member => outside _ member

theorem conclusion_outside (url : String) (outcome : Except Fault (List Value)) :
    ∀ step ∈ conclusion url outcome, step.IsOutside := by
  simp only [conclusion]
  split
  · simp [Step.IsOutside]
  · simp

/-- The page is touched only while it is classified, and only after its address has arrived. -/
theorem Course.outside_or_classified (course : Course world order state ran) :
    (∀ step ∈ ran.steps, step.IsOutside) ∨
      ∃ earlier opening later, IsArrival world.course opening ∧
        (∀ step ∈ earlier, step.IsOutside) ∧ (∀ step ∈ later, step.IsOutside) ∧
        ran.steps = earlier ++ opening ++
          (classify order.options world.content order.rules []).steps ++ later := by
  cases course with
  | @unstarted session fault sessionIs failed =>
      subst sessionIs
      exact .inl (start_outside order.settings world.machine state).1
  | @unopened session opening fault sessionIs started openingIs failed =>
      left
      have starts := (start_outside order.settings world.machine state).1
      have opens := (navigate_outside order.settings order.url world.course session.state).1
      have stops := (stop_outside world.machine opening.state).1
      rw [sessionIs] at starts
      rw [openingIs] at opens
      simp only [List.forall_mem_append]
      exact ⟨starts, opens, stops⟩
  | @classified session opening status pass sessionIs started openingIs arrives passIs =>
      right
      have starts := (start_outside order.settings world.machine state).1
      have stops := (stop_outside world.machine opening.state).1
      have arrival : IsArrival world.course opening.steps := by
        rw [← openingIs] at arrives ⊢
        exact navigate_isArrival arrives
      refine ⟨session.steps, opening.steps,
        (stop world.machine opening.state).1 ++ conclusion order.url pass.outcome, arrival,
        sessionIs ▸ starts, ?_, ?_⟩
      · simp only [List.forall_mem_append]
        exact ⟨stops, conclusion_outside _ _⟩
      · simp only [passIs, List.append_assoc]

/-- The page is asked for elements only when it has settled. -/
theorem Course.settled (course : Course world order state ran) {past future : List Step}
    {selector : String} (splits : ran.steps = past ++ .called (.evaluate selector) :: future) :
    HasSettled world.course order.options.settleDelay past := by
  have asked : .called (.evaluate selector) ∈ ran.steps := by simp [splits]
  rcases course.outside_or_classified with outside | ⟨earlier, opening, later, arrival, earlierOutside,
    laterOutside, steps⟩
  · exact absurd asked (not_mem_of_outside outside selector)
  rcases classify_steps order.options world.content order.rules with unsettled | ⟨rest, waits⟩
  · have untouched : ∀ step ∈ ran.steps, step.IsOutside := by
      rw [steps, unsettled]
      simp only [List.forall_mem_append, List.forall_mem_singleton]
      exact ⟨⟨⟨earlierOutside, arrival.isOutside⟩, trivial⟩, laterOutside⟩
    exact absurd asked (not_mem_of_outside untouched selector)
  · have beforehand : ∀ step ∈ earlier ++ opening ++
        [.reported (.waiting order.options.settleDelay), .waited order.options.settleDelay],
        step.IsOutside := by
      simp only [List.forall_mem_append, List.forall_mem_cons]
      exact ⟨⟨earlierOutside, arrival.isOutside⟩, trivial, trivial, by simp⟩
    rw [steps, waits, ← List.append_assoc, List.append_assoc] at splits
    obtain ⟨after, rfl⟩ := prefix_of_split splits (not_mem_of_outside beforehand selector)
    exact ⟨earlier, opening, after, arrival, rfl⟩

/-- The page is asked for elements only if the address has arrived. -/
theorem Course.arrived_of_asked (course : Course world order state ran) {selector : String}
    (asked : .called (.evaluate selector) ∈ ran.steps) :
    ∃ status, world.course.arrival = .arrived status := by
  rcases course.outside_or_classified with outside | ⟨_, _, _, arrival, -⟩
  · exact absurd asked (not_mem_of_outside outside selector)
  · obtain ⟨_, _, _, _, status, arrived, -⟩ := arrival
    exact ⟨status, arrived⟩

/-- A session whose page cannot be opened is stopped. -/
theorem Course.stopped (course : Course world order state ran)
    (lost : ∀ status, world.course.arrival ≠ .arrived status) {target : String}
    {waitUntil timeout : Value} (visited : .called (.visit target waitUntil timeout) ∈ ran.steps) :
    StopsAfter (.called (.visit target waitUntil timeout)) ran.steps ∧
      ran.state.opened = .nothing := by
  have starts := (start_ofSession order.settings world.machine state).1
  cases course with
  | @unstarted session fault sessionIs failed =>
      subst sessionIs
      exact (starts _ visited).elim
  | @unopened session opening fault sessionIs started openingIs failed =>
      have openedThen : session.state.opened = .of Part.all := by
        rw [← sessionIs] at started ⊢
        exact opened_of_start started
      have openedNow : opening.state.opened = .of Part.all := by
        rw [← openedThen, ← openingIs]
        exact (navigate_outside _ _ _ _).2
      have isOpen : session.state.opened.has .page = true := by
        rw [openedThen]
        rfl
      obtain ⟨noise, noisy, steps⟩ :=
        navigate_of_not_arrived isOpen lost order.settings order.url
      rw [openingIs] at steps
      have stops := stop_apply world.machine opening.state
      rw [openedNow, filter_has_of (List.prefix_refl _)] at stops
      rw [sessionIs] at starts
      simp only [steps, stops] at visited ⊢
      refine ⟨⟨session.steps, noise, ?_, noisy⟩, trivial⟩
      rcases List.mem_append.mp visited with early | late
      · exact (starts _ early).elim
      rcases List.mem_append.mp late with opens | closes
      · rcases List.mem_cons.mp opens with same | noise
        · rw [same]
          simp
        · cases noisy _ noise
      · rcases List.mem_append.mp closes with closing | reported
        · obtain ⟨_, -, other⟩ := List.mem_map.mp closing
          cases other
        · cases List.mem_singleton.mp reported
  | @classified session opening status pass sessionIs started openingIs arrives passIs =>
      rw [← openingIs] at arrives
      obtain ⟨_, _, _, _, reached, arrived, -⟩ := navigate_isArrival arrives
      exact absurd arrived (lost reached)

end

/-- A page that cannot be opened, and whose one element cannot be measured. -/
def strandedWorld : World where
  machine := ⟨none, none, none, [.page]⟩
  course := ⟨[.console "debug: here"], ["https://example.org/a.js"],
    .failed "net::ERR_NAME_NOT_RESOLVED"⟩
  content :=
    { evaluation := fun _ => none
      listing := fun selector => .ok [⟨selector, "0",
        some ⟨.error (.browserCall "gone"), .ok (.text "static")⟩, false⟩] }

theorem strandedWorld_failsByCalls : strandedWorld.content.FailsByCalls := by
  intro selector handles listed handle member box holds
  cases listed
  rw [List.mem_singleton.mp member] at holds
  cases holds
  exact ⟨.error ⟨"gone", rfl⟩, .ok _⟩

end Extraction

end CriticalCss
