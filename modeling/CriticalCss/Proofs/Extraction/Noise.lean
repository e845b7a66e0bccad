import CriticalCss.Proofs.Extraction.Course

/-!
# Noise does not matter

While an address is opened, its page may say anything and request anything.  If the address arrives,
an extraction ends as if the page had been silent, and it takes the same steps but for the noise.
-/

namespace CriticalCss.Extraction

open Activity Browser

/-- The steps that are no noise. -/
def quiet (steps : List Step) : List Step := steps.filter fun step => !step.isNoise

theorem quiet_append (earlier later : List Step) :
    quiet (earlier ++ later) = quiet earlier ++ quiet later :=
  List.filter_append ..

theorem quiet_of_noise {steps : List Step} (noisy : ∀ step ∈ steps, step.isNoise = true) :
    quiet steps = [] := by
  rw [quiet, List.filter_eq_nil_iff]
  simpa using noisy

/-- What is left of a transcript without noise. -/
def gist {σ α : Type} (transcript : Transcript σ Step α) : Except Fault α × List Step :=
  (transcript.outcome, quiet transcript.steps)

theorem gist_after {σ α : Type} {first second : Transcript σ Step α} (steps : List Step)
    (same : gist first = gist second) : gist (first.after steps) = gist (second.after steps) := by
  obtain ⟨sameOutcome, sameSteps⟩ := Prod.mk.inj same
  simp only [gist, Transcript.outcome_after, Transcript.steps_after, quiet_append, sameOutcome,
    sameSteps]

/-- What an extraction comes to if its address arrives, without noise. -/
def undisturbed (machine : Machine) (content : Content) (status : Option Int) (order : Order)
    (state : State) : Except Fault (List Value) × List Step :=
  let session := start order.settings machine state
  match session.outcome with
  | .error fault => (.error fault, quiet session.steps)
  | .ok _ =>
    let target := Url.quote order.url
    let pass := classify order.options content order.rules []
    (pass.outcome, quiet session.steps ++
      [.called (.visit target order.settings.waitUntil order.settings.timeout),
        .reported (.pageOpened target status)] ++ quiet pass.steps ++
      Part.all.reverse.map (fun part => .called (.close part)) ++ [.reported .sessionStopped] ++
      conclusion order.url pass.outcome)

variable {world : World} {order : Order} {state : State} {status : Option Int}

theorem quiet_conclusion (url : String) (outcome : Except Fault (List Value)) :
    quiet (conclusion url outcome) = conclusion url outcome := by
  cases outcome with
  | ok kept => cases none : kept.isEmpty <;> simp [conclusion, none, quiet, Step.isNoise]
  | error fault => rfl

/-- If its address arrives, an extraction comes to what it would come to without noise. -/
theorem Course.gist_eq {ran : Transcript State Step (List Value)}
    (course : Course world order state ran) (arrives : world.course.arrival = .arrived status) :
    gist ran = undisturbed world.machine world.content status order state := by
  cases course with
  | @unstarted session fault sessionIs failed =>
      simp only [undisturbed, sessionIs, failed]
      rfl
  | @unopened session opening fault sessionIs started openingIs failed =>
      have openedThen : session.state.opened = .of Part.all := by
        rw [← sessionIs] at started ⊢
        exact opened_of_start started
      have isOpen : session.state.opened.has .page = true := by
        rw [openedThen]
        rfl
      rw [← openingIs, navigate_apply isOpen, arrives] at failed
      cases failed
  | @classified session opening reached pass sessionIs started openingIs arrived passIs =>
      have openedThen : session.state.opened = .of Part.all := by
        rw [← sessionIs] at started ⊢
        exact opened_of_start started
      have isOpen : session.state.opened.has .page = true := by
        rw [openedThen]
        rfl
      have openedNow : opening.state.opened = .of Part.all := by
        rw [← openedThen, ← openingIs]
        exact (navigate_outside _ _ _ _).2
      have stops := stop_apply world.machine opening.state
      rw [openedNow, filter_has_of (List.prefix_refl _)] at stops
      have silent := quiet_of_noise (commotion_isNoisy world.course session.state.calm).1
      have opens : quiet opening.steps =
          [.called (.visit (Url.quote order.url) order.settings.waitUntil order.settings.timeout),
            .reported (.pageOpened (Url.quote order.url) status)] := by
        rw [← openingIs, navigate_apply isOpen, arrives]
        simp only [List.cons_append, Arrival.reports]
        rw [← List.singleton_append, quiet_append, quiet_append, silent]
        rfl
      simp only [gist, undisturbed, sessionIs, started, passIs, stops, quiet_append, opens,
        quiet_conclusion, List.append_assoc]
      rfl

/-- Whatever noise is made while an address that arrives is opened, an extraction comes to the
same. -/
theorem gist_carryOut (world : World) {other : Visit} (arrives : world.course.arrival = .arrived status)
    (alsoArrives : other.arrival = .arrived status) (order : Order) (state : State) :
    gist (carryOut { world with course := other } order state) =
      gist (carryOut world order state) := by
  rw [(carryOut_course world order state).gist_eq arrives,
    (carryOut_course { world with course := other } order state).gist_eq alsoArrives]

theorem gist_extract (world : World) {other : Visit} (arrives : world.course.arrival = .arrived status)
    (alsoArrives : other.arrival = .arrived status) (url : String) (settings : Settings)
    (rules : Value) (state : State) :
    gist (extract { world with course := other } url settings rules state) =
      gist (extract world url settings rules state) := by
  cases checked : check url settings rules with
  | error fault => rw [extract_of_error checked, extract_of_error checked]
  | ok order =>
      rw [extract_of_ok checked, extract_of_ok checked]
      exact gist_carryOut world arrives alsoArrives order state

theorem gist_extractFile (world : World) {other : Visit}
    (arrives : world.course.arrival = .arrived status)
    (alsoArrives : other.arrival = .arrived status) (files : FileTree) (url path : String)
    (settings : Settings) (state : State) :
    gist (extractFile { world with course := other } files url path settings state) =
      gist (extractFile world files url path settings state) := by
  cases loaded : Stylesheet.load files path with
  | error fault => rw [extractFile_of_error loaded, extractFile_of_error loaded]
  | ok rules =>
      rw [extractFile_of_ok loaded, extractFile_of_ok loaded]
      exact gist_after _ (gist_extract world arrives alsoArrives url settings rules state)

end CriticalCss.Extraction
