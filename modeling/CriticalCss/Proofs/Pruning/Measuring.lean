import CriticalCss.Proofs.Pruning.Parts

/-!
# What a pass measures

A pass may measure an element only as long as the look-up that found it is the last one.
Pruning does so: it goes through the elements of one selector before it looks up the next.
-/

namespace CriticalCss.Pass

variable {ε α β : Type}

/-- The elements that a look-up has found. -/
def found : Except Fault (List ε) → List ε
  | .ok elements => elements
  | .error _ => []

/-- A pass measures only elements of the last look-up, the first of which are given, and the
elements that it leaves behind if it succeeds satisfy a condition. -/
def MeasuresFound (leaves : List ε → Prop) : Pass ε α → List ε → Prop
  | done (.ok _), elements => leaves elements
  | done (.error _), _ => True
  | note _ rest, elements => MeasuresFound leaves rest elements
  | query _ next, _ => ∀ reply, MeasuresFound leaves (next reply) (found reply)
  | top _ element next, elements =>
    element ∈ elements ∧ ∀ reply, MeasuresFound leaves (next reply) elements
  | position element next, elements =>
    element ∈ elements ∧ ∀ reply, MeasuresFound leaves (next reply) elements

variable {leaves between : List ε → Prop} {elements : List ε}

theorem MeasuresFound.bind {pass : Pass ε α} {next : α → Pass ε β}
    (first : pass.MeasuresFound between elements)
    (rest : ∀ result left, between left → (next result).MeasuresFound leaves left) :
    (pass.bind next).MeasuresFound leaves elements := by
  induction pass generalizing elements with
  | done outcome =>
      cases outcome with
      | ok result => exact rest result elements first
      | error fault => trivial
  | note event _ ih => exact ih first
  | query selector _ ih =>
      intro reply
      exact ih reply (first reply)
  | top clear element _ ih =>
      obtain ⟨member, onward⟩ := first
      exact ⟨member, fun reply => ih reply (onward reply)⟩
  | position element _ ih =>
      obtain ⟨member, onward⟩ := first
      exact ⟨member, fun reply => ih reply (onward reply)⟩

/-- Measuring one element leaves the others behind. -/
theorem isAboveFold_measuresFound (height : Value) {element : ε} (member : element ∈ elements) :
    (isAboveFold height element).MeasuresFound (· = elements) elements := by
  have topFound : (topOf element).MeasuresFound (· = elements) elements := by
    refine ⟨member, fun reply => ?_⟩
    cases reply <;> trivial
  have positionFound : (positionOf element).MeasuresFound (· = elements) elements := by
    refine ⟨member, fun reply => ?_⟩
    cases reply <;> trivial
  refine topFound.bind ?_
  rintro top _ rfl
  cases top.less height with
  | error kinds => trivial
  | ok above =>
      cases above with
      | true => rfl
      | false =>
          refine positionFound.bind ?_
          rintro position _ rfl
          cases position.isText "fixed" <;> rfl

theorem anyAboveFold_measuresFound (height : Value) {members : List ε}
    (among : ∀ member ∈ members, member ∈ elements) :
    (anyAboveFold height members).MeasuresFound (fun _ => True) elements := by
  induction members with
  | nil => trivial
  | cons member rest ih =>
      refine (isAboveFold_measuresFound height (among member (by simp))).bind ?_
      rintro above _ rfl
      cases above with
      | true => trivial
      | false => exact ih fun other inRest => among other (by simp [inRest])

/-- Classifying a selector needs no elements from before. -/
theorem isCritical_measuresFound (options : Options) (selector : Value) :
    (isCritical options selector).MeasuresFound (fun _ => True) elements := by
  unfold isCritical
  split
  next selector =>
    unfold isCriticalText
    split
    · trivial
    split
    · trivial
    split
    · trivial
    · intro reply
      cases reply with
      | ok elements => exact anyAboveFold_measuresFound _ fun _ member => member
      | error fault => cases fault <;> trivial
  · split <;> trivial
  · trivial

/-- Measuring only what has been found holds of the parts of pruning. -/
theorem measuresFound_holdsOfParts (options : Options) :
    HoldsOfParts options fun _ (pass _ : Pass ε _) =>
      ∀ elements, pass.MeasuresFound (fun _ => True) elements where
  give := fun _ _ => trivial
  refuse := fun _ _ => trivial
  note := by
    intro _ event pass _ measures elements
    exact measures elements
  bind := fun first rest elements => (first elements).bind fun result left _ => rest result left
  isCritical := fun selector _ => isCritical_measuresFound options selector

/-- Pruning measures only what its last look-up has found. -/
theorem prune_measuresFound (options : Options) (rules : Value) (elements : List ε) :
    (prune options rules).MeasuresFound (fun _ => True) elements :=
  (measuresFound_holdsOfParts options).prune rules elements

end CriticalCss.Pass
