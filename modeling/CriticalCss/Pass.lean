import CriticalCss.Event
import CriticalCss.Fault

/-!
# Passes over a document

A pass is a computation that asks a document for elements and measures them.  It is given as a tree
of questions, so that one and the same pass can be carried out against a fixed document, against one
that changes while time goes by, or against the page of a browser.
-/

namespace CriticalCss

/-- A computation that asks a document, whose elements are of type `ε`, and ends with a result of
type `α` or a fault. -/
inductive Pass (ε α : Type) where
  | done (outcome : Except Fault α)
  | note (event : Event) (rest : Pass ε α)
  | query (selector : String) (next : Except Fault (List ε) → Pass ε α)
  /-- Measures the top of an element while it clears floats in a given way. -/
  | top (clear : String) (element : ε) (next : Except Fault Value → Pass ε α)
  | position (element : ε) (next : Except Fault Value → Pass ε α)

namespace Pass

variable {ε α β : Type}

/-- Goes on with the result of a pass. -/
def bind : Pass ε α → (α → Pass ε β) → Pass ε β
  | done (.ok result), next => next result
  | done (.error fault), _ => done (.error fault)
  | note event rest, next => note event (rest.bind next)
  | query selector answer, next => query selector fun reply => (answer reply).bind next
  | top clear element answer, next => top clear element fun reply => (answer reply).bind next
  | position element answer, next => position element fun reply => (answer reply).bind next

instance : Monad (Pass ε) where
  pure result := done (.ok result)
  bind := bind

/-- Ends a pass with a fault. -/
def fail (fault : Fault) : Pass ε α := done (.error fault)

/-- Reports an event. -/
def report (event : Event) : Pass ε Unit := note event (pure ())

/-- The distance of an element from the upper edge of the first screen, measured with floats
uncleared. -/
def topOf (element : ε) : Pass ε Value := top "none" element done

/-- How an element is positioned. -/
def positionOf (element : ε) : Pass ε Value := position element done

@[simp] theorem pure_eq (result : α) : (pure result : Pass ε α) = done (.ok result) := rfl

@[simp] theorem bind_eq (pass : Pass ε α) (next : α → Pass ε β) : pass >>= next = pass.bind next :=
  rfl

theorem bind_done_ok (pass : Pass ε α) : (pass.bind fun result => done (.ok result)) = pass := by
  induction pass with
  | done outcome => cases outcome <;> rfl
  | note event rest ih => simp [bind, ih]
  | query selector next ih => simp [bind, ih]
  | top clear element next ih => simp [bind, ih]
  | position element next ih => simp [bind, ih]

theorem bind_assoc {γ : Type} (pass : Pass ε α) (next : α → Pass ε β) (last : β → Pass ε γ) :
    (pass.bind next).bind last = pass.bind fun result => (next result).bind last := by
  induction pass with
  | done outcome => cases outcome <;> rfl
  | note event rest ih => simp [bind, ih]
  | query selector next ih => simp [bind, ih]
  | top clear element next ih => simp [bind, ih]
  | position element next ih => simp [bind, ih]

end Pass

end CriticalCss
