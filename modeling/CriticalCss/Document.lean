import CriticalCss.Activity
import CriticalCss.Pass

/-!
# Carrying out a pass

Whatever answers the questions of a pass is a responder, and a question is an activity of it: it may
take steps of its own, and the next question may find it changed.  A document is a responder that
always gives the same answers; carrying out a pass on it records what was asked and reported.
-/

namespace CriticalCss

/-- Something that answers the questions of a pass. -/
structure Responder (σ τ ε : Type) where
  query : String → Activity σ τ (List ε)
  top : (clear : String) → ε → Activity σ τ Value
  position : ε → Activity σ τ Value
  /-- The step of reporting an event. -/
  report : Event → τ

namespace Pass

variable {σ τ ε α : Type}

/-- Carries out a pass. -/
def run (responder : Responder σ τ ε) : Pass ε α → Activity σ τ α
  | done outcome => .ofOutcome outcome
  | note event rest => (Activity.take (responder.report event)).observe fun _ => rest.run responder
  | query selector next => (responder.query selector).observe fun reply => (next reply).run responder
  | top clear element next =>
    (responder.top clear element).observe fun reply => (next reply).run responder
  | position element next =>
    (responder.position element).observe fun reply => (next reply).run responder

end Pass

/-- A document that always gives the same answers. -/
structure Document (ε : Type) where
  query : String → Except Fault (List ε)
  top : (clear : String) → ε → Except Fault Value
  position : ε → Except Fault Value

/-- One thing that happens during a pass. -/
inductive PassStep (ε : Type) where
  | queried (selector : String)
  | measured (clear : String) (element : ε)
  | positioned (element : ε)
  | reported (event : Event)

namespace PassStep

variable {ε : Type}

/-- Whether a step asks the document something. -/
def isQuestion : PassStep ε → Bool
  | reported _ => false
  | _ => true

/-- The event that a step reports. -/
def event? : PassStep ε → Option Event
  | reported event => some event
  | _ => none

end PassStep

namespace Document

variable {ε α : Type}

/-- Takes a step and gives an answer. -/
def answer {β : Type} (step : PassStep ε) (reply : Except Fault β) :
    Activity Unit (PassStep ε) β :=
  (Activity.take step).observe fun _ => .ofOutcome reply

/-- A document as something that answers questions. -/
def responder (document : Document ε) : Responder Unit (PassStep ε) ε where
  query selector := answer (.queried selector) (document.query selector)
  top clear element := answer (.measured clear element) (document.top clear element)
  position element := answer (.positioned element) (document.position element)
  report := .reported

/-- Carries out a pass on a document. -/
def perform (document : Document ε) (pass : Pass ε α) : Transcript Unit (PassStep ε) α :=
  pass.run document.responder ()

end Document

end CriticalCss
