import CriticalCss.Proofs.Extraction.Course
import CriticalCss.Proofs.Pruning.Faults
import CriticalCss.Proofs.Pruning.Measuring

/-!
# What ends an extraction with a fault

Once its checks have been passed, an extraction fails by mishaps only: a call to the browser fails,
the page is not what it should be, or a value does not fit.  None of them is a fault of the input.
The one other thing that can end it is an interruption, while the address is opened.
-/

namespace CriticalCss

/-- Something that may go wrong in a browser, or with the values of a rule tree. -/
def Fault.isMishap : Fault → Bool
  | .launchFailed _ | .installFailed | .noPage | .navigationFailed _ _ _ | .emptyReport
  | .unending | .browserCall _ | .invalidSelector _ | .unreadableWhole _ | .tooManyDigits _
  | .notANumber _ | .unreadableReal _ | .wholeTooLarge => true
  | fault => fault.isMisfit

/-- The fault is a mishap. -/
abbrev Fault.IsMishap (fault : Fault) : Prop := fault.isMishap = true

theorem Fault.IsMishap.of_isMisfit {fault : Fault} (misfit : fault.isMisfit = true) :
    fault.IsMishap := by
  cases fault <;> first | exact misfit | rfl

/-- The fault of a call. -/
def Fault.IsCall (fault : Fault) : Prop := ∃ report, fault = .browserCall report

theorem Fault.IsCall.isMishap {fault : Fault} (isCall : fault.IsCall) : fault.IsMishap := by
  obtain ⟨report, rfl⟩ := isCall
  rfl

/-- Measuring an element fails only as calls do. -/
structure Box.FailsByCalls (box : Box) : Prop where
  top : FailsWith Fault.IsCall box.top
  position : FailsWith Fault.IsCall box.position

namespace Browser

open Activity

variable {α : Type}

/-! ## Sessions -/

theorem succeedUnless_failsWith (fault : Option String) :
    (succeedUnless fault).FailsWith Fault.IsMishap := by
  cases fault with
  | none => exact .ofOutcome (.ok ())
  | some text => exact .fail rfl

theorem attemptLaunch_failsWith (settings : Settings) :
    (attemptLaunch settings).FailsWith Fault.IsMishap :=
  (FailsWith.take _).bind fun _ => (FailsWith.inspect _).bind fun fault =>
    (FailsWith.update _).bind fun _ => (succeedUnless_failsWith fault).bind fun _ => .update _

theorem install_failsWith : install.FailsWith Fault.IsMishap := by
  have ends : ∀ (event : Event) (result : Bool), (do
      Browser.report event
      return result : Deed Bool).FailsWith Fault.IsMishap :=
    fun _ result => (FailsWith.take _).bind fun _ => .ofOutcome (.ok result)
  rw [install]
  refine (FailsWith.inspect _).bind fun tried => ?_
  split
  · exact .ofOutcome (.ok false)
  refine (FailsWith.update _).bind fun _ => (FailsWith.take _).bind fun _ =>
    (FailsWith.take _).bind fun _ => (FailsWith.inspect _).bind fun installation =>
      (FailsWith.update _).bind fun _ => ?_
  split
  · exact ends _ _
  · split
    · split <;> exact ends _ _
    · exact ends _ _

theorem launch_failsWith (settings : Settings) :
    (launch settings).FailsWith Fault.IsMishap := by
  refine (attemptLaunch_failsWith settings).observe fun outcome fails => ?_
  split
  · split
    · refine install_failsWith.bind fun installed => ?_
      cases installed with
      | true => exact attemptLaunch_failsWith settings
      | false => exact .fail rfl
    · exact .fail rfl
  · exact .ofOutcome fails

theorem openPage_failsWith (settings : Settings) (machine : Machine) :
    (openPage settings machine).FailsWith Fault.IsMishap := by
  refine (FailsWith.take _).bind fun _ => (succeedUnless_failsWith _).bind fun _ =>
    (FailsWith.update _).bind fun _ => (FailsWith.take _).bind fun _ =>
      (succeedUnless_failsWith _).bind fun _ => (FailsWith.update _).bind fun _ =>
        (FailsWith.take _).bind fun _ => (FailsWith.take _).bind fun _ =>
          (FailsWith.take _).bind fun _ => ?_
  split
  · exact (FailsWith.take _).bind fun _ => .update _
  · exact .ofOutcome (.ok ())

/-- A session that cannot be started meets a mishap. -/
theorem start_failsWith (settings : Settings) (machine : Machine) :
    (start settings machine).FailsWith Fault.IsMishap :=
  (FailsWith.take _).bind fun _ => (succeedUnless_failsWith _).bind fun _ =>
    (FailsWith.update _).bind fun _ =>
      (((launch_failsWith settings).bind fun _ => openPage_failsWith settings machine).undoing
        _).bind fun _ => .take _

/-- An address that cannot be opened meets a mishap, unless opening it is interrupted. -/
theorem navigate_failsWith (settings : Settings) (url : String) (course : Visit) :
    (navigate settings url course).FailsWith fun fault =>
      fault.IsMishap ∨ fault = .interrupted ∧ course.arrival = .interrupted := by
  intro state
  cases isOpen : state.opened.has .page with
  | false =>
      rw [navigate_of_closed isOpen]
      exact .error (.inl rfl)
  | true =>
      rw [navigate_apply isOpen]
      cases course.arrival with
      | interrupted => exact .error (.inr ⟨rfl, rfl⟩)
      | failed text =>
          refine .error (.inl ?_)
          simp only [navigationFault]
          split
          · rfl
          · split <;> rfl
      | arrived status => exact .ok status

/-! ## Pages -/

/-- Measuring what a page holds fails only as calls do. -/
def Content.FailsByCalls (content : Content) : Prop :=
  ∀ selector handles, content.listing selector = .ok handles →
    ∀ handle ∈ handles, ∀ box, handle.element = some box → box.FailsByCalls

namespace Page

theorem element?_failsWith (handle : Handle) :
    CriticalCss.FailsWith Fault.IsMishap (element? handle) := by
  rw [element?]
  split
  · exact .ok none
  · split
    · split
      · exact .ok _
      · exact .error rfl
      · exact .error rfl
    · exact .ok none

theorem adopt_failsWith (handles : List Handle) : (adopt handles).FailsWith Fault.IsMishap := by
  induction handles with
  | nil => exact .ofOutcome (.ok [])
  | cons handle rest ih =>
      exact (FailsWith.ofOutcome (element?_failsWith handle)).bind fun _ =>
        (FailsWith.update _).bind fun _ => ih.bind fun _ => .ofOutcome (.ok _)

theorem query_failsWith (content : Content) (selector : String) :
    (query content selector).FailsWith Fault.IsMishap := by
  refine (FailsWith.tidy releaseAll).bind fun _ => (FailsWith.take _).bind fun _ => ?_
  split
  · refine .fail ?_
    rw [evaluationFault]
    split <;> rfl
  · refine (FailsWith.take _).bind fun _ => (FailsWith.take _).bind fun _ => ?_
    split
    · exact .fail rfl
    · exact (adopt_failsWith _).bind fun _ => .ofOutcome (.ok _)

/-- The elements that are taken over are held by the handles. -/
theorem mem_of_adopt {handles live : List Handle} {elements : List (Nat × Element)}
    (adopted : (adopt handles live).outcome = .ok elements) {place : Nat} {element : Element}
    (member : (place, element) ∈ elements) :
    ∃ handle ∈ handles, handle.element = some element.box := by
  induction handles generalizing live elements with
  | nil =>
      cases adopted
      cases member
  | cons handle rest ih =>
      obtain ⟨foundHere, told, later⟩ := ok_of_bind adopted
      obtain ⟨_, -, later⟩ := ok_of_bind later
      obtain ⟨others, adoptedRest, together⟩ := ok_of_bind later
      cases together
      rcases List.mem_append.mp member with here | inRest
      · refine ⟨handle, by simp, ?_⟩
        have holds : found? handle = some (place, element) := by
          have toldHere : element? handle = .ok foundHere := told
          rw [found?, toldHere]
          exact Option.mem_toList.mp here
        exact (holds_of_found? holds).2
      · obtain ⟨other, otherIn, holds⟩ := ih adoptedRest inRest
        exact ⟨other, by simp [otherIn], holds⟩

/-- What a look-up finds can be measured, but for failing calls. -/
theorem found_failsByCalls {content : Content} (fails : content.FailsByCalls) (selector : String)
    (live : List Handle) {element : Element}
    (isFound : element ∈ Pass.found (query content selector live).outcome) :
    element.box.FailsByCalls := by
  rw [query_eq, Transcript.outcome_after] at isFound
  cases reply : (fetch content selector []).outcome with
  | error fault =>
      rw [reply] at isFound
      cases isFound
  | ok elements =>
      rw [reply] at isFound
      cases evaluated : content.evaluation selector with
      | some report =>
          rw [fetch_of_unevaluated evaluated] at reply
          cases reply
      | none =>
          cases listed : content.listing selector with
          | error report =>
              rw [fetch_of_unlisted evaluated listed] at reply
              cases reply
          | ok handles =>
              simp only [fetch, evaluated, listed] at reply
              obtain ⟨_, -, reply⟩ := ok_of_bind reply
              obtain ⟨_, -, reply⟩ := ok_of_bind reply
              obtain ⟨adopted, succeeds, ordered⟩ := ok_of_bind reply
              cases ordered
              obtain ⟨⟨place, _⟩, member, rfl⟩ := List.mem_map.mp isFound
              obtain ⟨handle, listedHandle, holds⟩ :=
                mem_of_adopt succeeds (List.mem_mergeSort.mp member)
              exact fails selector handles listed handle listedHandle _ holds

theorem toReal_failsWith (measured : Value) :
    CriticalCss.FailsWith Fault.IsMishap (toReal measured) := by
  simp only [toReal]
  split
  · split
    · exact .ok _
    · exact .error rfl
  · split
    · exact .ok _
    · exact .error rfl
  · exact .error rfl
  · exact .error rfl

/-- Measuring the top of an element that can be measured fails by mishaps only. -/
theorem top_failsWith (clear : String) {element : Element} (fails : element.box.FailsByCalls) :
    (top clear element).FailsWith Fault.IsMishap :=
  (FailsWith.take _).bind fun _ =>
    (FailsWith.ofOutcome (fails.top.mono fun _ => Fault.IsCall.isMishap)).bind fun measured =>
      .ofOutcome (toReal_failsWith measured)

theorem position_failsWith {element : Element} (fails : element.box.FailsByCalls) :
    (position element).FailsWith Fault.IsMishap :=
  (FailsWith.take _).bind fun _ =>
    .ofOutcome (fails.position.mono fun _ => Fault.IsCall.isMishap)

end Page

end Browser

namespace Extraction

open Activity Browser

/-- Classifying a page fails by mishaps only. -/
theorem classify_failsWith {content : Content} (fails : content.FailsByCalls) (options : Options)
    (rules : Value) : (classify options content rules).FailsWith Fault.IsMishap := by
  have waits : (wait options.settleDelay : Browser.Page.Deed Unit).FailsWith Fault.IsMishap := by
    rw [wait]
    split
    · exact .take _
    · exact .fail rfl
  have prunes : ((Pass.prune options rules).run (Browser.Page.responder content)).FailsWith
      Fault.IsMishap :=
    (Pass.prune_endsOnFault options rules).run_failsWith (Pass.prune_measuresFound options rules [])
      (by simp) (fun _ => .of_isMisfit) (Browser.Page.query_failsWith content)
      (fun selector live _ => Browser.Page.found_failsByCalls fails selector live)
      (fun clear _ => Browser.Page.top_failsWith clear) fun _ => Browser.Page.position_failsWith
  exact ((FailsWith.take _).bind fun _ => waits.bind fun _ => (FailsWith.take _).bind fun _ =>
    prunes.bind fun kept => (FailsWith.take _).bind fun _ => .ofOutcome (.ok kept)).ensuring _

/-- An extraction that has passed its checks fails by mishaps only, unless it is interrupted while
its address is opened. -/
theorem carryOut_failsWith {world : World} (fails : world.content.FailsByCalls) (order : Order) :
    (carryOut world order).FailsWith fun fault =>
      fault.IsMishap ∨ fault = .interrupted ∧ world.course.arrival = .interrupted := by
  intro state
  have course := carryOut_course world order state
  generalize carryOut world order state = ran at course ⊢
  cases course with
  | unstarted session failed =>
      refine .error (.inl ?_)
      exact start_failsWith order.settings world.machine state _ (by rw [session, failed])
  | @unopened session _ _ _ _ opening failed =>
      refine .error ?_
      exact navigate_failsWith order.settings order.url world.course session.state _
        (by rw [opening, failed])
  | classified _ _ _ _ pass =>
      rw [← pass]
      exact (classify_failsWith fails order.options order.rules []).mono fun _ => .inl

end Extraction

end CriticalCss
