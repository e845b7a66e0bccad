import CriticalCss.Extraction
import CriticalCss.Proofs.Browser.Balance
import CriticalCss.Proofs.Browser.Lookup

/-!
# How an extraction goes

An extraction that fails its checks takes no step.  One that passes them goes in one of three
ways: its session cannot be started, its address cannot be opened, or the page is classified.
In the latter two the session is stopped.
-/

namespace CriticalCss.Extraction

open Activity Browser

section

variable {world : World} {url : String} {settings : Settings} {rules : Value} {state : State}

/-- An extraction that fails its checks takes no step and changes nothing. -/
theorem extract_of_error {fault : Fault} (failed : check url settings rules = .error fault) :
    extract world url settings rules state = ⟨.error fault, [], state⟩ := by
  simp only [extract, failed]
  rfl

theorem extract_of_ok {order : Order} (checked : check url settings rules = .ok order) :
    extract world url settings rules state = carryOut world order state := by
  simp only [extract, checked]
  rfl

variable {files : FileTree} {path : String}

/-- An extraction from a file that cannot be loaded takes no step and changes nothing. -/
theorem extractFile_of_error {fault : Fault} (failed : Stylesheet.load files path = .error fault) :
    extractFile world files url path settings state = ⟨.error fault, [], state⟩ := by
  simp only [extractFile, failed]
  rfl

/-- An extraction from a file goes on with what has been loaded. -/
theorem extractFile_of_ok (loaded : Stylesheet.load files path = .ok rules) :
    extractFile world files url path settings state =
      (extract world url settings rules state).after
        [.reported (.rulesLoaded (ruleCount rules) path)] := by
  simp only [extractFile, loaded]
  rfl

end

/-- What is reported in the end about an extraction that has ended with an outcome. -/
def conclusion (url : String) : Except Fault (List Value) → List Step
  | .ok kept => [.reported (if kept.isEmpty then .nothingCritical url else .extracted kept.length url)]
  | .error _ => []

/-- How an extraction that has been checked goes. -/
inductive Course (world : World) (order : Order) (state : State) :
    Transcript State Step (List Value) → Prop where
  /-- The session cannot be started. -/
  | unstarted {session : Transcript State Step Unit} {fault : Fault} :
      start order.settings world.machine state = session → session.outcome = .error fault →
      Course world order state ⟨.error fault, session.steps, session.state⟩
  /-- The address cannot be opened. -/
  | unopened {session : Transcript State Step Unit}
      {opening : Transcript State Step (Option Int)} {fault : Fault} :
      start order.settings world.machine state = session → session.outcome = .ok () →
      navigate order.settings order.url world.course session.state = opening →
      opening.outcome = .error fault →
      Course world order state ⟨.error fault,
        session.steps ++ (opening.steps ++ (stop world.machine opening.state).1),
        (stop world.machine opening.state).2⟩
  /-- The page is classified. -/
  | classified {session : Transcript State Step Unit}
      {opening : Transcript State Step (Option Int)} {status : Option Int}
      {pass : Transcript (List Handle) Step (List Value)} :
      start order.settings world.machine state = session → session.outcome = .ok () →
      navigate order.settings order.url world.course session.state = opening →
      opening.outcome = .ok status →
      classify order.options world.content order.rules [] = pass →
      Course world order state ⟨pass.outcome,
        session.steps ++ (opening.steps ++ (pass.steps ++ (stop world.machine opening.state).1)) ++
          conclusion order.url pass.outcome,
        (stop world.machine opening.state).2⟩

/-- What is done in a page: the address is opened, and then the page is classified. -/
def visitAndClassify (world : World) (order : Order) : Deed (List Value) :=
  (navigate order.settings order.url world.course).bind fun _ =>
    requirePage.bind fun _ => within [] (classify order.options world.content order.rules)

/-- What is reported in the end changes neither how an extraction ends nor the state. -/
theorem concluded_apply (deed : Deed (List Value)) (url : String) (state : State) :
    (deed.bind fun kept => (report (if kept.isEmpty then .nothingCritical url
        else .extracted kept.length url)).bind fun _ => ofOutcome (.ok kept)) state =
      ⟨(deed state).outcome, (deed state).steps ++ conclusion url (deed state).outcome,
        (deed state).state⟩ := by
  cases ends : (deed state).outcome with
  | ok kept =>
      rw [bind_of_ok ends]
      rfl
  | error fault =>
      rw [bind_of_error ends]
      simp [conclusion]

theorem carryOut_apply (world : World) (order : Order) (state : State) :
    carryOut world order state =
      let inner := inSession order.settings world.machine (visitAndClassify world order) state
      ⟨inner.outcome, inner.steps ++ conclusion order.url inner.outcome, inner.state⟩ :=
  concluded_apply _ order.url state

/-- Every extraction that has been checked goes in one of these ways. -/
theorem carryOut_course (world : World) (order : Order) (state : State) :
    Course world order state (carryOut world order state) := by
  have split : inSession order.settings world.machine (visitAndClassify world order) =
      (start order.settings world.machine).bind fun _ =>
        (visitAndClassify world order).ensuring (stop world.machine) := rfl
  rw [carryOut_apply, split]
  cases starts : (start order.settings world.machine state).outcome with
  | error fault =>
      simp only [bind_of_error starts, conclusion, List.append_nil]
      exact .unstarted rfl starts
  | ok started =>
      simp only [bind_of_ok starts, ensuring_apply, Transcript.after]
      generalize session : start order.settings world.machine state = opened at starts
      cases arrives : (navigate order.settings order.url world.course opened.state).outcome with
      | error fault =>
          have inside : visitAndClassify world order opened.state = _ := bind_of_error arrives _
          simp only [inside, conclusion, List.append_nil]
          exact .unopened session starts rfl arrives
      | ok status =>
          have stillOpen := page_of_navigate arrives
          rw [← (navigate_outside order.settings order.url world.course opened.state).2]
            at stillOpen
          have inside : visitAndClassify world order opened.state = _ := bind_of_ok arrives _
          have required := requirePage_apply stillOpen
          have passes : (requirePage (navigate order.settings order.url world.course
              opened.state).state).outcome = .ok () := by rw [required]
          rw [bind_of_ok passes, required] at inside
          simp only [inside, within, Transcript.after, List.nil_append, List.append_assoc]
          have course := Course.classified session starts rfl arrives rfl
          simpa only [List.append_assoc] using course

end CriticalCss.Extraction
