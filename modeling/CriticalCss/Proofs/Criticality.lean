import CriticalCss.Criticality
import CriticalCss.Document.Snapshot
import CriticalCss.Proofs.Perform

/-!
# What makes a selector critical

Whether a selector is critical is stated here without asking anything: by the entries
that are always kept, by the shape of the selector, and by where the elements that it
selects stand.  On a document whose only failure is to refuse a selector, classifying
decides exactly that.
-/

namespace CriticalCss

variable {ε : Type}

/-- Options that keep nothing but the universal selector in any case. -/
def Options.plain : Options where
  forceInclude := [.universal]
  viewportHeight := .whole 900
  settleDelay := .whole 100
  has_universal := by decide
  height_positive := by decide +kernel
  delay_nonnegative := by decide +kernel

namespace Document

/-- A document that fails only by refusing selectors: whatever a look-up gives can be
measured. -/
structure IsReliable (document : Document ε) : Prop where
  refusal : ∀ {selector fault}, document.query selector = .error fault →
    ∃ refused, fault = .invalidSelector refused
  top : ∀ {selector elements element}, document.query selector = .ok elements →
    element ∈ elements → ∃ top, document.top "none" element = .ok (.number top)
  position : ∀ {selector elements element}, document.query selector = .ok elements →
    element ∈ elements → ∃ position, document.position element = .ok position

/-- An element shows on the first screen: it begins above the lower edge, or it is fixed
there. -/
def Shows (document : Document ε) (height : Number) (element : ε) : Prop :=
  (∃ top, document.top "none" element = .ok (.number top) ∧ top.less height = true) ∨
    document.position element = .ok (.text "fixed")

/-- A selector is critical: it is always kept, it is an at-rule, it consists of pseudo
selectors only, or one of the elements found by it shows on the first screen. -/
def IsCritical (document : Document ε) (options : Options) (selector : String) : Prop :=
  options.keeps (Text.trim selector) = true ∨
    selector.toList.head? = some '@' ∨
    Selector.reduce selector = none ∨
    ∃ reduced elements element, Selector.reduce selector = some reduced ∧
      document.query reduced = .ok elements ∧ element ∈ elements ∧
      document.Shows options.viewportHeight element

/-- A pass decides a statement: it succeeds, and its answer is yes exactly if the
statement holds. -/
def Decides (document : Document ε) (pass : Pass ε Bool) (statement : Prop) : Prop :=
  ∃ answer, (document.perform pass).outcome = .ok answer ∧ (answer = true ↔ statement)

theorem decides_true {document : Document ε} {statement : Prop} (holds : statement) :
    document.Decides (.done (.ok true)) statement :=
  ⟨true, rfl, by simp [holds]⟩

theorem decides_false {document : Document ε} {statement : Prop}
    (fails : ¬statement) : document.Decides (.done (.ok false)) statement :=
  ⟨false, rfl, by simp [fails]⟩

end Document

/-- The elements that a snapshot gives for a selector are those in its table. -/
theorem Snapshot.mem_table_of_query {snapshot : Snapshot} {selector : String}
    {elements : List Located} {element : Located}
    (found : snapshot.query selector = .ok elements) (member : element ∈ elements) :
    ∃ boxes, (selector, boxes) ∈ snapshot.selected ∧ element.box ∈ boxes := by
  unfold query at found
  split at found
  next => cases found
  next =>
    split at found
    next => cases found
    next =>
      cases entry : snapshot.selected.lookup selector with
      | none =>
          simp only [entry, locate, Option.getD_none, List.mapIdx_nil, Except.ok.injEq] at found
          simp [← found] at member
      | some boxes =>
          simp only [entry, Option.getD_some, Except.ok.injEq] at found
          subst found
          obtain ⟨index, inside, rfl⟩ := List.mem_mapIdx.mp member
          obtain ⟨front, back, tableIs, _⟩ := List.lookup_eq_some_iff.mp entry
          exact ⟨boxes, by simp [tableIs], List.getElem_mem inside⟩

/-- A snapshot on which no look-up fails and everything can be measured is a reliable
document. -/
theorem Snapshot.isReliable_document {snapshot : Snapshot} (noFailure : snapshot.failing = [])
    (measurable : ∀ entry ∈ snapshot.selected, ∀ box ∈ entry.2,
      (∃ top, box.top = .ok (.number top)) ∧ ∃ position, box.position = .ok position) :
    snapshot.document.IsReliable where
  refusal := by
    intro selector fault failed
    simp only [document, query, noFailure, List.lookup_nil] at failed
    split at failed
    · cases failed
      exact ⟨selector, rfl⟩
    · cases failed
  top found member := by
    obtain ⟨boxes, listed, inside⟩ := mem_table_of_query found member
    exact (measurable _ listed _ inside).1
  position found member := by
    obtain ⟨boxes, listed, inside⟩ := mem_table_of_query found member
    exact (measurable _ listed _ inside).2

namespace Value

/-- Only the text itself is the given text. -/
theorem isText_iff (value : Value) (wanted : String) :
    value.isText wanted = true ↔ value = .text wanted := by
  cases value <;> simp [isText]

end Value

namespace Pass

open Document

/-- Measuring decides whether an element shows on the first screen. -/
theorem isAboveFold_decides {document : Document ε} {element : ε} {top : Number}
    {position : Value} (height : Number)
    (topFound : document.top "none" element = .ok (.number top))
    (positionFound : document.position element = .ok position) :
    document.Decides (isAboveFold (.number height) element)
      (document.Shows height element) := by
  have shows_iff : document.Shows height element ↔
      top.less height = true ∨ position = .text "fixed" := by
    simp [Shows, topFound, positionFound]
  simp only [Decides, isAboveFold, topOf, bind_eq, bind, perform_top, topFound,
    Value.less, Transcript.outcome_after]
  cases above : top.less height with
  | true => exact ⟨true, rfl, by simp [shows_iff, above]⟩
  | false =>
      simp only [positionOf, bind, perform_position, positionFound,
        Transcript.outcome_after]
      cases fixed : position.isText "fixed" with
      | true =>
          have isFixed := (Value.isText_iff position "fixed").mp fixed
          exact ⟨true, rfl, by simp [shows_iff, isFixed]⟩
      | false =>
          have notFixed : position ≠ .text "fixed" := fun equal => by
            simp [equal, Value.isText] at fixed
          exact ⟨false, rfl, by simp [shows_iff, above, notFixed]⟩

/-- Measuring some elements in order decides whether one of them shows. -/
theorem anyAboveFold_decides {document : Document ε} (height : Number)
    {elements : List ε}
    (measurable : ∀ element ∈ elements,
      (∃ top, document.top "none" element = .ok (.number top)) ∧
        ∃ position, document.position element = .ok position) :
    document.Decides (anyAboveFold (.number height) elements)
      (∃ element ∈ elements, document.Shows height element) := by
  induction elements with
  | nil => exact decides_false (by simp)
  | cons element rest ih =>
      obtain ⟨⟨top, topFound⟩, position, positionFound⟩ := measurable element (by simp)
      obtain ⟨first, firstIs, first_iff⟩ :=
        isAboveFold_decides height topFound positionFound
      obtain ⟨others, othersIs, others_iff⟩ :=
        ih fun other member => measurable other (by simp [member])
      refine ⟨first || others, ?_, by simp [first_iff, others_iff]⟩
      simp only [anyAboveFold, bind_eq]
      rw [outcome_bind document firstIs]
      cases first with
      | true => rfl
      | false => simpa using othersIs

/-- On a reliable document, classifying decides whether a selector is critical. -/
theorem isCriticalText_decides {document : Document ε} (reliable : document.IsReliable)
    (options : Options) (selector : String) :
    document.Decides (isCriticalText options selector)
      (document.IsCritical options selector) := by
  unfold isCriticalText
  by_cases kept : options.keeps (Text.trim selector) = true
  · rw [if_pos kept]
    exact decides_true (.inl kept)
  rw [if_neg kept]
  by_cases atRule : selector.toList.head? = some '@'
  · rw [if_pos atRule]
    exact decides_true (.inr (.inl atRule))
  rw [if_neg atRule]
  cases reducedIs : Selector.reduce selector with
  | none => exact decides_true (.inr (.inr (.inl reducedIs)))
  | some reduced =>
      have critical_iff : document.IsCritical options selector ↔
          ∃ elements element, document.query reduced = .ok elements ∧
            element ∈ elements ∧ document.Shows options.viewportHeight element := by
        simp [IsCritical, kept, atRule, reducedIs]
      simp only [Decides, perform_query, Transcript.outcome_after]
      cases reply : document.query reduced with
      | ok elements =>
          obtain ⟨answer, answerIs, answer_iff⟩ :=
            anyAboveFold_decides options.viewportHeight fun element member =>
              ⟨reliable.top reply member, reliable.position reply member⟩
          exact ⟨answer, answerIs, by simp [answer_iff, critical_iff, reply]⟩
      | error fault =>
          obtain ⟨refused, rfl⟩ := reliable.refusal reply
          exact ⟨false, rfl, by simp [critical_iff, reply]⟩

end Pass

end CriticalCss
