import CriticalCss.Browser.Page
import CriticalCss.Proofs.Browser.Session
import CriticalCss.Proofs.Numerals
import CriticalCss.Proofs.Pruning.Alike
import Mathlib.Data.List.Nodup

/-!
# What looking up a selector in a page gives

A page keeps the elements of a selector in an array, and hands over a handle for each
property of the array: in any order, and among others that are no elements.  A look-up
sorts out the elements and puts them in their places again.
-/

namespace CriticalCss

/-- What a page has for a selector: its elements in order, a complaint that the selector is
malformed, or another fault. -/
inductive Finding where
  | elements (boxes : List Box)
  | malformed
  | broken (report : String)

/-- The reply of a document in which a selector finds this. -/
def Finding.reply (selector : String) : Finding → Except Fault (List Located)
  | .elements boxes => .ok (Snapshot.locate selector boxes)
  | .malformed => .error (.invalidSelector selector)
  | .broken report => .error (.browserCall report)

/-- The document that is given by what every selector finds. -/
def Document.ofFindings (find : String → Finding) : Document Located where
  query selector := (find selector).reply selector
  top _ element := element.box.top
  position element := element.box.position

namespace Browser

/-- The handle stands for a member of its array: it holds an element, and its key consists
of digits. -/
def Handle.isMember (handle : Handle) : Bool :=
  handle.element.isSome && Text.isDigits handle.key

/-- A page presents what it has for a selector.  An array has a handle for each element,
with its index for a key, in any order and mixed with handles that are no members.  No array
is so long that an index is beyond reading, and tops that can be measured are doubles. -/
inductive Presents (content : Content) (selector : String) : Finding → Prop where
  | elements {boxes : List Box} {handles : List Handle} {lost : Nat → Bool} :
      content.evaluation selector = none → content.listing selector = .ok handles →
      (handles.filter Handle.isMember).Perm
        (boxes.mapIdx fun index box => ⟨selector, toString index, some box, lost index⟩) →
      (∀ index < boxes.length, Integer.isTooLong index = false) →
      (∀ box ∈ boxes, ∀ top, box.top = .ok top → ∃ real, top = .number (.real real)) →
      Presents content selector (.elements boxes)
  | malformed {report : String} :
      content.evaluation selector = some report → Page.saysMalformed report = true →
      Presents content selector .malformed
  | unevaluated {report : String} :
      content.evaluation selector = some report → Page.saysMalformed report = false →
      Presents content selector (.broken report)
  | unlisted {report : String} :
      content.evaluation selector = none → content.listing selector = .error report →
      Presents content selector (.broken report)

namespace Page

open Activity

/-- A handle holds the element that is known by its selector and its index. -/
structure Stands (element : Element) (located : Located) : Prop where
  box : element.box = located.box
  selector : element.handle.selector = located.selector
  key : element.handle.key = toString located.index
  real : ∀ top, located.box.top = .ok top → ∃ real, top = .number (.real real)

/-! ## Taking over the properties -/

/-- The element that a handle holds, if it can be told. -/
def found? (handle : Handle) : Option (Nat × Element) :=
  match element? handle with
  | .ok found => found
  | .error _ => none

/-- A handle holds an element of its own. -/
theorem holds_of_found? {handle : Handle} {place : Nat} {element : Element}
    (holds : found? handle = some (place, element)) :
    element.handle = handle ∧ handle.element = some element.box := by
  unfold found? element? at holds
  split at holds
  next told =>
    subst holds
    split at told
    · cases told
    next box held =>
      split at told
      · split at told <;> cases told
        exact ⟨rfl, held⟩
      · cases told
  next => cases holds

theorem element?_of_not_isMember {handle : Handle} (other : handle.isMember = false) :
    element? handle = .ok none := by
  unfold element?
  cases holds : handle.element with
  | none => rfl
  | some box =>
      have noKey : Text.isDigits handle.key = false := by simpa [Handle.isMember, holds] using other
      simp [noKey]

/-- The member with an index is told by the numeral of the index. -/
theorem element?_of_index {index : Nat} (short : Integer.isTooLong index = false)
    (selector : String) (box : Box) (lost : Bool) :
    element? ⟨selector, toString index, some box, lost⟩ =
      .ok (some (index, ⟨⟨selector, toString index, some box, lost⟩, box⟩)) := by
  simp only [element?, Text.isDigits_toString, if_true, Integer.read_toString short]
  rfl

/-- A handle that can be told becomes alive, and the rest is taken over after it. -/
theorem adopt_cons {handle : Handle} {found : Option (Nat × Element)}
    (told : element? handle = .ok found) (rest live : List Handle) :
    adopt (handle :: rest) live =
      ((adopt rest).bind fun others => ofOutcome (.ok (found.toList ++ others)))
        (live ++ [handle]) := by
  simp only [adopt, told]
  rfl

/-- If every handle can be told, all of them become alive, and the elements are taken over in
the order of the handles. -/
theorem adopt_eq {handles : List Handle}
    (told : ∀ handle ∈ handles, ∃ found, element? handle = .ok found) (live : List Handle) :
    adopt handles live = ⟨.ok (handles.filterMap found?), [], live ++ handles⟩ := by
  induction handles generalizing live with
  | nil => simp [adopt, ofOutcome]
  | cons handle rest ih =>
      obtain ⟨found, foundIs⟩ := told handle (by simp)
      have others := ih (fun other member => told other (by simp [member])) (live ++ [handle])
      have first : found? handle = found := by simp [found?, foundIs]
      have succeeds : (adopt rest (live ++ [handle])).outcome =
          .ok (rest.filterMap found?) := by rw [others]
      rw [adopt_cons foundIs, bind_of_ok succeeds, others]
      cases found with
      | none => simp [ofOutcome, first, Transcript.after]
      | some member => simp [ofOutcome, first, Transcript.after]

/-- Whether a numbered item may stand before another. -/
def mayPrecede {α : Type} (left right : Nat × α) : Bool := Decidable.decide (left.1 ≤ right.1)

theorem mayPrecede_trans {α : Type} (first second third : Nat × α)
    (before : mayPrecede first second = true) (after : mayPrecede second third = true) :
    mayPrecede first third = true := by
  simp only [mayPrecede, decide_eq_true_eq] at before after ⊢
  exact Nat.le_trans before after

theorem mayPrecede_total {α : Type} (left right : Nat × α) :
    (mayPrecede left right || mayPrecede right left) = true := by
  simp only [mayPrecede, Bool.or_eq_true, decide_eq_true_eq]
  exact Nat.le_total left.1 right.1

/-- Sorting by numbers undoes any rearrangement, if no number occurs twice. -/
theorem mergeSort_eq_of_perm {α : Type} {items ascending : List (Nat × α)}
    (rearranged : items.Perm ascending)
    (strict : ascending.Pairwise fun left right => left.1 < right.1) :
    items.mergeSort mayPrecede = ascending := by
  have sorted := List.pairwise_mergeSort mayPrecede_trans mayPrecede_total items
  have ascends : ascending.Pairwise fun left right => mayPrecede left right = true :=
    strict.imp fun less => by simpa [mayPrecede] using Nat.le_of_lt less
  have same := (List.mergeSort_perm items mayPrecede).trans rearranged
  have numbersDiffer : (ascending.map (·.1)).Nodup :=
    List.pairwise_map.mpr (strict.imp Nat.ne_of_lt)
  refine List.Perm.eq_of_pairwise (fun left right leftIn rightIn notAfter notBefore => ?_)
    sorted ascends same
  simp only [mayPrecede, decide_eq_true_eq] at notAfter notBefore
  exact List.inj_on_of_nodup_map numbersDiffer (same.mem_iff.mp leftIn) rightIn
    (Nat.le_antisymm notAfter notBefore)

/-- Putting numbered elements in order undoes any rearrangement of them. -/
theorem inOrder_of_perm {elements : List (Nat × Element)} {boxes : List Box}
    {member : Nat → Box → Element}
    (rearranged : elements.Perm (boxes.mapIdx fun index box => (index, member index box))) :
    inOrder elements = boxes.mapIdx member := by
  have strict : (boxes.mapIdx fun index box => (index, member index box)).Pairwise
      fun left right => left.1 < right.1 := by
    rw [List.pairwise_iff_getElem]
    intro first second _ _ order
    simpa using order
  have unfolded : inOrder elements = (elements.mergeSort mayPrecede).map (·.2) := rfl
  rw [unfolded, mergeSort_eq_of_perm rearranged strict]
  simp [List.mapIdx_eq_zipIdx_map, Function.comp_def]

section

variable {selector : String} {boxes : List Box} {handles : List Handle} {lost : Nat → Bool}

/-- Every handle of an array can be told. -/
theorem element?_of_listed
    (members : (handles.filter Handle.isMember).Perm
      (boxes.mapIdx fun index box => ⟨selector, toString index, some box, lost index⟩))
    (short : ∀ index < boxes.length, Integer.isTooLong index = false) {handle : Handle}
    (listed : handle ∈ handles) : ∃ found, element? handle = .ok found := by
  cases isMember : handle.isMember with
  | false => exact ⟨none, element?_of_not_isMember isMember⟩
  | true =>
      obtain ⟨index, inside, rfl⟩ := List.mem_mapIdx.mp
        (members.mem_iff.mp (List.mem_filter.mpr ⟨listed, isMember⟩))
      exact ⟨_, element?_of_index (short index inside) _ _ _⟩

/-- The members among the handles of an array are its elements, in their places. -/
theorem inOrder_of_members
    (members : (handles.filter Handle.isMember).Perm
      (boxes.mapIdx fun index box => ⟨selector, toString index, some box, lost index⟩))
    (short : ∀ index < boxes.length, Integer.isTooLong index = false) :
    inOrder (handles.filterMap found?) =
      boxes.mapIdx fun index box => ⟨⟨selector, toString index, some box, lost index⟩, box⟩ := by
  have onlyMembers : handles.filterMap found? =
      (handles.filter Handle.isMember).filterMap found? := by
    rw [List.filterMap_filter]
    apply List.filterMap_congr
    intro handle _
    cases isMember : handle.isMember with
    | true => rfl
    | false => simp [found?, element?_of_not_isMember isMember]
  have told : (boxes.mapIdx fun index box =>
        (⟨selector, toString index, some box, lost index⟩ : Handle)).filterMap found? =
      boxes.mapIdx fun index box =>
        (index, (⟨⟨selector, toString index, some box, lost index⟩, box⟩ : Element)) := by
    simp only [List.mapIdx_eq_zipIdx_map, List.filterMap_map]
    rw [← List.filterMap_eq_map]
    apply List.filterMap_congr
    rintro ⟨box, index⟩ listed
    have inside : index < boxes.length := (List.mem_zipIdx' listed).1
    simp only [Function.comp_apply, found?, element?_of_index (short index inside)]
  apply inOrder_of_perm
  rw [onlyMembers, ← told]
  exact members.filterMap found?

end

theorem adopt_keeps {allowed : Step → Prop} (handles : List Handle) :
    (adopt handles).Keeps allowed unseen := by
  induction handles with
  | nil => exact keeps_ofOutcome _
  | cons handle rest ih =>
      exact (keeps_ofOutcome _).bind fun _ => (update_unseen _).bind fun _ =>
        ih.bind fun _ => keeps_ofOutcome _

/-! ## Answers -/

/-- What a look-up does once the selector has been evaluated. -/
def fetch (content : Content) (selector : String) : Deed (List Element) :=
  match content.evaluation selector with
  | some report => Activity.fail (evaluationFault selector report)
  | none => do
    call (.properties selector)
    call (.releaseArray selector)
    match content.listing selector with
    | .error report => Activity.fail (.browserCall report)
    | .ok handles => do
      let elements ← adopt handles
      return inOrder elements

theorem query_eq (content : Content) (selector : String) (live : List Handle) :
    query content selector live = (fetch content selector []).after
      (live.flatMap releaseSteps ++ [.called (.evaluate selector)]) := by
  rw [← Transcript.after_after]
  rfl

/-- A selector that cannot be evaluated is not looked into any further. -/
theorem fetch_of_unevaluated {content : Content} {selector report : String}
    (failed : content.evaluation selector = some report) :
    fetch content selector [] = ⟨.error (evaluationFault selector report), [], []⟩ := by
  simp only [fetch, failed]
  rfl

/-- If its properties cannot be had, an array is released all the same. -/
theorem fetch_of_unlisted {content : Content} {selector report : String}
    (evaluated : content.evaluation selector = none)
    (failed : content.listing selector = .error report) :
    fetch content selector [] = ⟨.error (.browserCall report),
      [.called (.properties selector), .called (.releaseArray selector)], []⟩ := by
  simp only [fetch, evaluated, failed]
  rfl

/-- The properties that an array has are taken over, and the elements are put in order. -/
theorem fetch_eq_adopt {content : Content} {selector : String} {handles : List Handle}
    (evaluated : content.evaluation selector = none)
    (listed : content.listing selector = .ok handles) :
    fetch content selector [] =
      (((adopt handles).bind fun elements => ofOutcome (.ok (inOrder elements))) []).after
        [.called (.properties selector), .called (.releaseArray selector)] := by
  simp only [fetch, evaluated, listed]
  rfl

/-- All properties of an array become alive, and the elements among them are put in order. -/
theorem fetch_of_listed {content : Content} {selector : String} {handles : List Handle}
    (evaluated : content.evaluation selector = none)
    (listed : content.listing selector = .ok handles)
    (told : ∀ handle ∈ handles, ∃ found, element? handle = .ok found) :
    fetch content selector [] = ⟨.ok (inOrder (handles.filterMap found?)),
      [.called (.properties selector), .called (.releaseArray selector)], handles⟩ := by
  have succeeds : (adopt handles []).outcome = .ok (handles.filterMap found?) := by
    rw [adopt_eq told]
  rw [fetch_eq_adopt evaluated listed, bind_of_ok succeeds, adopt_eq told]
  rfl

/-- Looking into an array takes no steps but two calls. -/
theorem fetch_keeps {allowed : Step → Prop}
    (lists : ∀ selector, allowed (.called (.properties selector)))
    (releases : ∀ selector, allowed (.called (.releaseArray selector))) (content : Content)
    (selector : String) : (fetch content selector).Keeps allowed unseen := by
  unfold fetch
  split
  · exact keeps_ofOutcome _
  have calls : ∀ request, allowed (.called request) →
      (call request : Deed Unit).Keeps allowed unseen := fun _ => keeps_take
  refine (calls _ (lists selector)).bind fun _ => ?_
  refine (calls _ (releases selector)).bind fun _ => ?_
  split
  · exact keeps_ofOutcome _
  · exact (adopt_keeps _).bind fun _ => keeps_ofOutcome _

theorem fetch_silent (content : Content) (selector : String) :
    (fetch content selector).Keeps Step.IsSilent unseen :=
  fetch_keeps (fun _ => rfl) (fun _ => rfl) content selector

/-- Releasing handles takes no steps but a call for each, and a report for each that is gone. -/
theorem releaseAll_keeps {allowed : Step → Prop}
    (releases : ∀ handle, allowed (.called (.release handle)))
    (reports : allowed (.reported .handleGone)) :
    Tidying.Keeps allowed unseen releaseAll := by
  intro live
  refine ⟨fun step member => ?_, rfl⟩
  obtain ⟨handle, -, inside⟩ := List.mem_flatMap.mp member
  unfold releaseSteps at inside
  split at inside
  · simp only [List.mem_cons, List.not_mem_nil, or_false] at inside
    rcases inside with rfl | rfl
    · exact releases handle
    · exact reports
  · rw [List.mem_singleton.mp inside]
    exact releases handle

theorem releaseAll_silent : Tidying.Keeps Step.IsSilent unseen releaseAll :=
  releaseAll_keeps (fun _ => rfl) rfl

/-- The steps of looking up, measuring with nothing to clear, and reporting. -/
inductive IsAsking : Step → Prop where
  | evaluate (selector : String) : IsAsking (.called (.evaluate selector))
  | properties (selector : String) : IsAsking (.called (.properties selector))
  | releaseArray (selector : String) : IsAsking (.called (.releaseArray selector))
  | release (handle : Handle) : IsAsking (.called (.release handle))
  | top (handle : Handle) : IsAsking (.called (.measureTop handle "none"))
  | position (handle : Handle) : IsAsking (.called (.measurePosition handle))
  | report (event : Event) : IsAsking (.reported event)

theorem query_isAsking (content : Content) (selector : String) :
    (query content selector).Keeps IsAsking unseen := by
  have releases : Tidying.Keeps IsAsking unseen releaseAll :=
    releaseAll_keeps .release (.report _)
  have evaluates : (call (.evaluate selector) : Deed Unit).Keeps IsAsking unseen :=
    keeps_take (.evaluate selector)
  exact (keeps_tidy releases).bind fun _ => evaluates.bind fun _ =>
    fetch_keeps .properties .releaseArray content selector

/-- A pass over a page that measures like that takes no other steps. -/
theorem run_isAsking {α : Type} {pass : Pass Element α} (uncleared : pass.IsUncleared)
    (content : Content) : (pass.run (responder content)).Keeps IsAsking unseen := by
  induction pass with
  | done outcome => exact keeps_ofOutcome _
  | note event rest ih => exact (keeps_take (.report event)).observe fun _ => ih uncleared
  | query selector next ih =>
      exact (query_isAsking content selector).observe fun reply => ih reply (uncleared reply)
  | top clear element next ih =>
      obtain ⟨rfl, onward⟩ := uncleared
      have measures : (top "none" element).Keeps IsAsking unseen :=
        (keeps_take (.top element.handle)).bind fun _ =>
          (keeps_ofOutcome _).bind fun _ => keeps_ofOutcome _
      exact measures.observe fun reply => ih reply (onward reply)
  | position element next ih =>
      have measures : (position element).Keeps IsAsking unseen :=
        (keeps_take (.position element.handle)).bind fun _ => keeps_ofOutcome _
      exact measures.observe fun reply => ih reply (uncleared reply)

/-- A look-up asks for one selector. -/
theorem questions_query (content : Content) (selector : String) (live : List Handle) :
    (query content selector live).steps.filterMap Step.question? = [.elements selector] := by
  have released : (live.flatMap releaseSteps).filterMap Step.question? = [] :=
    questions_eq_nil (releaseAll_silent live).1
  have fetched := questions_eq_nil (fetch_silent content selector []).1
  rw [query_eq, Transcript.steps_after, List.filterMap_append, List.filterMap_append, released,
    fetched]
  rfl

/-- A look-up gives what the page has for the selector. -/
theorem query_sameReply {content : Content} {selector : String} {finding : Finding}
    (presents : Presents content selector finding) (live : List Handle) :
    SameReply Stands (query content selector live).outcome (finding.reply selector) := by
  rw [query_eq, Transcript.outcome_after]
  cases presents with
  | @elements boxes handles lost evaluated listed members short real =>
      rw [fetch_of_listed evaluated listed fun _ => element?_of_listed members short]
      simp only
      rw [inOrder_of_members members short]
      refine .ok ?_
      simp only [Snapshot.locate, List.mapIdx_eq_zipIdx_map]
      rw [List.forall₂_map_left_iff, List.forall₂_map_right_iff, List.forall₂_same]
      rintro ⟨box, index⟩ listedBox
      exact ⟨rfl, rfl, rfl, real box (List.fst_mem_of_mem_zipIdx listedBox)⟩
  | malformed failed refused =>
      rw [fetch_of_unevaluated failed, evaluationFault, if_pos refused]
      exact .error _
  | unevaluated failed notRefused =>
      rw [fetch_of_unevaluated failed, evaluationFault, notRefused]
      exact .error _
  | unlisted evaluated failed =>
      rw [fetch_of_unlisted evaluated failed]
      exact .error _

end Page

end Browser

end CriticalCss
