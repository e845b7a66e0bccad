import CriticalCss.Proofs.Pruning.Parts
import Mathlib.Data.List.Forall2

/-!
# Passes that do alike

A pass never looks into an element; it only asks for it to be measured.  So the same
classification over two kinds of elements is one and the same pass, up to the elements: it
asks the same questions about related elements, and related answers lead it on alike.  The
relation also says how a pass takes a look-up that fails: unless the selector was refused,
the failure ends it at once.
-/

namespace CriticalCss

/-- Two replies to a look-up tell the same: related elements in the same order, or the same
fault. -/
inductive SameReply {ε ε' : Type} (related : ε → ε' → Prop) :
    Except Fault (List ε) → Except Fault (List ε') → Prop where
  | ok {elements : List ε} {others : List ε'} :
      List.Forall₂ related elements others → SameReply related (.ok elements) (.ok others)
  | error (fault : Fault) : SameReply related (.error fault) (.error fault)

/-- Every reply tells the same as itself. -/
theorem SameReply.refl {ε : Type} (reply : Except Fault (List ε)) : SameReply Eq reply reply := by
  cases reply with
  | ok elements => exact .ok (List.forall₂_eq_eq_eq ▸ rfl)
  | error fault => exact .error fault

/-- The fault says that a selector was refused. -/
def Fault.IsRefusal (fault : Fault) : Prop := ∃ selector, fault = .invalidSelector selector

namespace Pass

section

variable {ε ε' α β : Type} {related : ε → ε' → Prop}

/-- Two passes do alike: they ask and report the same, up to related elements, and related
replies lead them on alike.  A look-up that fails, but not by a refusal, ends both. -/
inductive Alike (related : ε → ε' → Prop) : Pass ε α → Pass ε' α → Prop where
  | done (outcome : Except Fault α) : Alike related (.done outcome) (.done outcome)
  | note (event : Event) {rest : Pass ε α} {rest' : Pass ε' α} :
      Alike related rest rest' → Alike related (.note event rest) (.note event rest')
  | query (selector : String) {next : Except Fault (List ε) → Pass ε α}
      {next' : Except Fault (List ε') → Pass ε' α} :
      (∀ reply reply', SameReply related reply reply' →
        Alike related (next reply) (next' reply')) →
      (∀ fault, ¬fault.IsRefusal → next (.error fault) = .done (.error fault)) →
      Alike related (.query selector next) (.query selector next')
  | top {clear : String} {element : ε} {element' : ε'} {next : Except Fault Value → Pass ε α}
      {next' : Except Fault Value → Pass ε' α} :
      related element element' → (∀ reply, Alike related (next reply) (next' reply)) →
      Alike related (.top clear element next) (.top clear element' next')
  | position {element : ε} {element' : ε'} {next : Except Fault Value → Pass ε α}
      {next' : Except Fault Value → Pass ε' α} :
      related element element' → (∀ reply, Alike related (next reply) (next' reply)) →
      Alike related (.position element next) (.position element' next')

theorem Alike.bind {pass : Pass ε α} {pass' : Pass ε' α} {next : α → Pass ε β}
    {next' : α → Pass ε' β} (alike : Alike related pass pass')
    (onward : ∀ result, Alike related (next result) (next' result)) :
    Alike related (pass.bind next) (pass'.bind next') := by
  induction alike with
  | done outcome =>
      cases outcome with
      | ok result => exact onward result
      | error fault => exact .done _
  | note event _ ih => exact .note event ih
  | query selector _ fails ih =>
      refine .query selector ih fun fault other => ?_
      rw [fails fault other]
      rfl
  | top same _ ih => exact .top same ih
  | position same _ ih => exact .position same ih

end

section

variable {ε ε' : Type} {related : ε → ε' → Prop}

theorem isAboveFold_alike (height : Value) {element : ε} {element' : ε'}
    (same : related element element') :
    Alike related (isAboveFold height element) (isAboveFold height element') := by
  refine Alike.bind (.top same .done) fun top => ?_
  cases top.less height with
  | error kinds => exact .done _
  | ok above =>
      cases above with
      | true => exact .done _
      | false =>
          refine Alike.bind (.position same .done) fun position => ?_
          cases position.isText "fixed" with
          | true => exact .note _ (.done _)
          | false => exact .done _

theorem anyAboveFold_alike (height : Value) {elements : List ε} {others : List ε'}
    (same : List.Forall₂ related elements others) :
    Alike related (anyAboveFold height elements) (anyAboveFold height others) := by
  induction same with
  | nil => exact .done _
  | cons first _ ih =>
      refine Alike.bind (isAboveFold_alike height first) fun above => ?_
      cases above with
      | true => exact .done _
      | false => exact ih

theorem isCriticalText_alike (options : Options) (selector : String) :
    Alike related (isCriticalText options selector) (isCriticalText options selector) := by
  unfold isCriticalText
  split
  · exact .done _
  split
  · exact .done _
  split
  · exact .done _
  · refine .query _ (fun reply reply' same => ?_) fun fault other => ?_
    · cases same with
      | ok same => exact anyAboveFold_alike _ same
      | error fault =>
          cases fault with
          | invalidSelector refused => exact .note _ (.done _)
          | _ => exact .done _
    · cases fault with
      | invalidSelector refused => exact absurd ⟨refused, rfl⟩ other
      | _ => rfl

theorem isCritical_alike (options : Options) (selector : Value) :
    Alike related (isCritical options selector) (isCritical options selector) := by
  unfold isCritical
  split
  · exact isCriticalText_alike options _
  · split <;> exact .done _
  · exact .done _

/-- Doing alike holds of the parts of pruning. -/
theorem alike_holdsOfParts (options : Options) :
    HoldsOfParts options fun _ => Alike related where
  give _ := .done _
  refuse _ := .done _
  note event := .note event
  bind := .bind
  isCritical := isCritical_alike options

/-- Pruning is one pass, whatever the elements are. -/
theorem prune_alike (options : Options) (rules : Value) :
    Alike related (prune options rules) (prune options rules) :=
  (alike_holdsOfParts options).prune rules

end

end Pass

end CriticalCss
