import CriticalCss.Proofs.Perform

/-!
# Conversations

The questions of a pass and the answers that it gets, in order, are its conversation with
whatever answers it.  Answers may depend on what has been asked before, and any of them may be
a fault.  What can be said of a conversation whatever the answers are can be read off the tree
of questions, part by part.
-/

namespace CriticalCss

/-- One thing that happens during a pass, with the answer if it is a question. -/
inductive Exchange (ε : Type) where
  | queried (selector : String) (reply : Except Fault (List ε))
  | measured (clear : String) (element : ε) (reply : Except Fault Value)
  | positioned (element : ε) (reply : Except Fault Value)
  | reported (event : Event)

namespace Exchange

variable {ε : Type}

/-- Whether an exchange is a question with its answer. -/
def isQuestion : Exchange ε → Bool
  | reported _ => false
  | _ => true

/-- The fault that a question is answered with, other than the refusal of a selector that is looked
up. -/
def fault? : Exchange ε → Option Fault
  | queried _ (.error (.invalidSelector _)) => none
  | queried _ (.error fault) | measured _ _ (.error fault)
  | positioned _ (.error fault) => some fault
  | _ => none

theorem eq_of_fault?_queried {selector : String} {fault other : Fault}
    (holds : (queried selector (.error fault) : Exchange ε).fault? = some other) :
    other = fault := by
  cases fault with
  | invalidSelector refused => cases holds
  | _ => exact (Option.some.inj holds).symm

end Exchange

section

variable {σ τ ε α β : Type}

/-- Answers a question and takes the exchange down. -/
def Activity.recorded (activity : Activity σ τ α) (exchange : Except Fault α → Exchange ε) :
    Activity σ (Exchange ε) α := fun state =>
  let answered := activity state
  ⟨answered.outcome, [exchange answered.outcome], answered.state⟩

/-- Answers as a responder does, and takes every exchange down. -/
def Responder.recording (responder : Responder σ τ ε) : Responder σ (Exchange ε) ε where
  query selector := (responder.query selector).recorded (.queried selector)
  top clear element := (responder.top clear element).recorded (.measured clear element)
  position element := (responder.position element).recorded (.positioned element)
  report := .reported

/-- The conversation of a pass with a responder in a state. -/
def Responder.conversation (responder : Responder σ τ ε) (pass : Pass ε α) (state : σ) :
    List (Exchange ε) :=
  (pass.run responder.recording state).steps.filter Exchange.isQuestion

namespace Pass

/-- Whatever is answered, conversation and outcome of a pass satisfy a specification. -/
def Converses : Pass ε α → (List (Exchange ε) → Except Fault α → Prop) → Prop
  | done outcome, spec => spec [] outcome
  | note _ rest, spec => rest.Converses spec
  | query selector next, spec => ∀ reply,
      (next reply).Converses fun talk outcome => spec (.queried selector reply :: talk) outcome
  | top clear element next, spec => ∀ reply,
      (next reply).Converses fun talk outcome =>
        spec (.measured clear element reply :: talk) outcome
  | position element next, spec => ∀ reply,
      (next reply).Converses fun talk outcome => spec (.positioned element reply :: talk) outcome

namespace Converses

variable {pass : Pass ε α} {spec : List (Exchange ε) → Except Fault α → Prop}

theorem mono {weaker : List (Exchange ε) → Except Fault α → Prop} (converses : pass.Converses spec)
    (follows : ∀ talk outcome, spec talk outcome → weaker talk outcome) :
    pass.Converses weaker := by
  induction pass generalizing spec weaker with
  | done outcome => exact follows [] outcome converses
  | note event rest ih => exact ih converses follows
  | query selector answer ih | top clear element answer ih | position element answer ih =>
      exact fun reply => ih reply (converses reply) fun talk => follows (_ :: talk)

/-- A sequence goes on with its second part once the first has succeeded. -/
theorem bind {next : α → Pass ε β} {last : List (Exchange ε) → Except Fault β → Prop}
    (converses : pass.Converses spec)
    (onward : ∀ talk result, spec talk (.ok result) →
      (next result).Converses fun further outcome => last (talk ++ further) outcome)
    (ends : ∀ talk fault, spec talk (.error fault) → last talk (.error fault)) :
    (pass.bind next).Converses last := by
  induction pass generalizing spec last with
  | done outcome =>
      cases outcome with
      | ok result => exact onward [] result converses
      | error fault => exact ends [] fault converses
  | note event rest ih => exact ih converses onward ends
  | query selector answer ih | top clear element answer ih | position element answer ih =>
      exact fun reply => ih reply (converses reply) (fun talk => onward (_ :: talk))
        fun talk => ends (_ :: talk)

/-- The conversation with any responder is one of those that the tree of questions allows. -/
theorem run (converses : pass.Converses spec) (responder : Responder σ τ ε) (state : σ) :
    spec (responder.conversation pass state) (pass.run responder state).outcome := by
  induction pass generalizing spec state with
  | done outcome => exact converses
  | note event rest ih => exact ih converses state
  | query selector answer ih =>
      exact ih (responder.query selector state).outcome (converses _)
        (responder.query selector state).state
  | top clear element answer ih =>
      exact ih (responder.top clear element state).outcome (converses _)
        (responder.top clear element state).state
  | position element answer ih =>
      exact ih (responder.position element state).outcome (converses _)
        (responder.position element state).state

end Converses

end Pass

end

end CriticalCss
