import CriticalCss.Document.Snapshot
import CriticalCss.Proofs.Criticality
import CriticalCss.Proofs.Pruning.Remnants
import CriticalCss.Proofs.Pruning.SurvivalLaw

/-!
# Accepted rules can be pruned

The check of a stylesheet looks at little: the types of nodes, and that selectors and rules
are lists.  It is all that pruning relies on.  Accepted rules are pruned without a fault on
every page that fails only by refusing selectors, even if it answers differently each time,
and what is left is accepted again and can be written.
-/

namespace CriticalCss

/-! ## Passes that cannot fail -/

/-- Something that answers every question, or refuses a selector; its answers may change. -/
structure Responder.OnlyRefuses {σ τ ε : Type} (responder : Responder σ τ ε) : Prop where
  query : ∀ selector state,
    (∃ elements, (responder.query selector state).outcome = .ok elements) ∨
      ∃ refused, (responder.query selector state).outcome = .error (.invalidSelector refused)
  top : ∀ clear element state,
    ∃ top, (responder.top clear element state).outcome = .ok (.number top)
  position : ∀ element state,
    ∃ position, (responder.position element state).outcome = .ok position

namespace Pass

open Stylesheet

variable {σ τ ε α β : Type}

/-- Whatever is answered, unless it is a fault other than the refusal of a selector, the pass
ends with a result that satisfies a condition. -/
def Ensures (condition : α → Prop) : Pass ε α → Prop
  | done (.ok result) => condition result
  | done (.error _) => False
  | note _ rest => rest.Ensures condition
  | query _ next => (∀ elements, (next (.ok elements)).Ensures condition) ∧
      ∀ refused, (next (.error (.invalidSelector refused))).Ensures condition
  | top _ _ next => ∀ top, (next (.ok (.number top))).Ensures condition
  | position _ next => ∀ position, (next (.ok position)).Ensures condition

theorem Ensures.bind {first : α → Prop} {second : β → Prop} {pass : Pass ε α}
    {next : α → Pass ε β} (ensures : pass.Ensures first)
    (onward : ∀ result, first result → (next result).Ensures second) :
    (pass.bind next).Ensures second := by
  induction pass with
  | done outcome =>
      cases outcome with
      | ok result => exact onward result ensures
      | error fault => exact ensures.elim
  | note event rest ih => exact ih ensures
  | query selector answer ih =>
      obtain ⟨found, refused⟩ := ensures
      exact ⟨fun elements => ih _ (found elements), fun selector => ih _ (refused selector)⟩
  | top clear element answer ih => exact fun top => ih _ (ensures top)
  | position element answer ih => exact fun position => ih _ (ensures position)

/-- A pass that cannot fail does not fail. -/
theorem Ensures.run {condition : α → Prop} {pass : Pass ε α} (ensures : pass.Ensures condition)
    {responder : Responder σ τ ε} (onlyRefuses : responder.OnlyRefuses) (state : σ) :
    ∃ result, (pass.run responder state).outcome = .ok result ∧ condition result := by
  induction pass generalizing state with
  | done outcome =>
      cases outcome with
      | ok result => exact ⟨result, rfl, ensures⟩
      | error fault => exact ensures.elim
  | note event rest ih => exact ih ensures state
  | query selector answer ih =>
      simp only [Pass.run, Activity.observe, Transcript.outcome_after]
      rcases onlyRefuses.query selector state with ⟨elements, found⟩ | ⟨refused, refusal⟩
      · rw [found]
        exact ih _ (ensures.1 elements) _
      · rw [refusal]
        exact ih _ (ensures.2 refused) _
  | top clear element answer ih =>
      obtain ⟨top, measured⟩ := onlyRefuses.top clear element state
      simp only [Pass.run, Activity.observe, Transcript.outcome_after]
      rw [measured]
      exact ih _ (ensures top) _
  | position element answer ih =>
      obtain ⟨position, measured⟩ := onlyRefuses.position element state
      simp only [Pass.run, Activity.observe, Transcript.outcome_after]
      rw [measured]
      exact ih _ (ensures position) _

/-! ## Selectors -/

variable {options : Options}

theorem isAboveFold_ensures (height : Number) (element : ε) :
    (isAboveFold (.number height) element).Ensures fun _ => True := by
  intro top
  simp only [bind, Value.less]
  cases top.less height with
  | true => trivial
  | false =>
      intro position
      simp only [bind]
      cases position.isText "fixed" <;> trivial

theorem anyAboveFold_ensures (height : Number) (elements : List ε) :
    (anyAboveFold (.number height) elements).Ensures fun _ => True := by
  induction elements with
  | nil => trivial
  | cons element rest ih =>
      refine (isAboveFold_ensures height element).bind fun isAbove _ => ?_
      cases isAbove with
      | true => trivial
      | false => exact ih

theorem isCriticalText_ensures (selector : String) :
    (isCriticalText options selector : Pass ε Bool).Ensures fun _ => True := by
  rw [isCriticalText]
  split
  · trivial
  · split
    · trivial
    · split
      · trivial
      · exact ⟨fun elements => anyAboveFold_ensures _ elements, fun _ => trivial⟩

/-- Going through texts leaves some of them, in order. -/
theorem criticalSelectors_ensures {selectors : List Value}
    (texts : ∀ selector ∈ selectors, ∃ text, selector = .text text) :
    (criticalSelectors options selectors : Pass ε (List Value)).Ensures
      fun left => left.Sublist selectors := by
  induction selectors with
  | nil => exact .slnil
  | cons selector rest ih =>
      obtain ⟨text, rfl⟩ := texts selector (by simp)
      have others := ih fun other member => texts other (by simp [member])
      refine (isCriticalText_ensures text).bind fun critical _ => ?_
      refine others.bind fun left sublist => ?_
      cases critical with
      | true => exact sublist.cons_cons _
      | false => exact sublist.cons _

/-! ## Nodes -/

/-- What becomes of a node that is pruned: nothing is left of it, or a remnant. -/
inductive Yields (node : Value) : Option Value → Prop where
  | nothing : Yields node none
  | remnant {image : Value} : Remnant node image → Yields node (some image)

theorem pruneRule_ensures {fields : Fields} (isRule : fields.IsRule)
    (listed : fields.HoldsList "selectors")
    (texts : ∀ selector ∈ fields.listAt "selectors", ∃ text, selector = .text text) :
    (pruneRule options fields : Pass ε (Option Value)).Ensures (Yields (.object fields)) := by
  simp only [pruneRule, elementsOf_selectors listed, bind_eq, bind]
  refine (criticalSelectors_ensures texts).bind fun left sublist => ?_
  cases left with
  | nil => exact .nothing
  | cons first rest => exact .remnant (.rule isRule (by simp) sublist)

theorem pruneNodes_ensures {nodes : List Value}
    (each : ∀ node ∈ nodes,
      (pruneNode options node : Pass ε (Option Value)).Ensures (Yields node)) :
    (pruneNodes options nodes : Pass ε (List Value)).Ensures (Remnants nodes) := by
  induction nodes with
  | nil => exact .nil
  | cons node rest ih =>
      rw [pruneNodes]
      have others := ih fun other member => each other (by simp [member])
      refine (each node (by simp)).bind fun image? yields => ?_
      refine others.bind fun left remnants => ?_
      cases yields with
      | nothing => exact .drop remnants
      | remnant remnant => exact .keep remnant remnants

/-- Pruning a well-formed node leaves a remnant of it or nothing. -/
theorem pruneNode_ensures {node : Value} (wellFormed : WellFormed node) :
    (pruneNode options node : Pass ε (Option Value)).Ensures (Yields node) := by
  induction wellFormed with
  | @node fields type typed selectorList texts ruleList _ ih =>
      have isText : (Fields.get? fields "type").getD .null = .text type := by
        rw [typed]
        rfl
      simp only [pruneNode, isText, NodeClass.ofType]
      cases classIs : NodeClass.ofText type with
      | rule => exact pruneRule_ensures ((Fields.isRule_iff typed).mpr classIs) selectorList texts
      | leaf => exact .remnant (.leaf ((Fields.isLeaf_iff typed).mpr classIs))
      | unsupported => exact .nothing
      | group =>
          have isGroup := (Fields.isGroup_iff typed).mpr classIs
          simp only [pruneNested_eq options ruleList]
          refine (pruneNodes_ensures ih).bind fun left remnants => ?_
          cases left with
          | nil => exact .nothing
          | cons first rest => exact .remnant (.group isGroup (by simp) remnants)

/-- Pruning well-formed nodes leaves remnants of them. -/
theorem prune_ensures {nodes : List Value} (wellFormed : ∀ node ∈ nodes, WellFormed node) :
    (prune options (.list nodes) : Pass ε (List Value)).Ensures (Remnants nodes) := by
  have each := pruneNodes_ensures fun node member =>
    @pruneNode_ensures ε options node (wellFormed node member)
  exact each.bind fun left remnants => remnants

end Pass

/-! ## Accepted rules -/

namespace Stylesheet

theorem rulesOf_inherits {holds : Value → Prop} (inherited : Value.IsInherited holds)
    {stylesheet : Value} (held : holds stylesheet) : holds (rulesOf stylesheet) := by
  have none : holds (.list []) := inherited.list (by simp)
  simp only [rulesOf]
  split
  next fields =>
    split
    next body found =>
      have heldByBody : holds (.object body) := inherited.get? held found
      cases rulesAre : Fields.get? body "rules" with
      | none => exact none
      | some rules => exact inherited.get? heldByBody rulesAre
    next => exact none
  next => exact none

/-- Rules that are accepted: those of a stylesheet or a list of them, in a JSON text. -/
inductive Accepted : Value → Prop where
  | stylesheet {text : String} {stylesheet rules : Value} :
      Json.read text = .ok stylesheet → parse stylesheet = .ok rules → Accepted rules
  | rules {text : String} {rules : Value} :
      Json.read text = .ok rules → validateRules rules = .ok () → Accepted rules

namespace Accepted

variable {rules : Value}

theorem validateRules_eq_ok (accepted : Accepted rules) : validateRules rules = .ok () := by
  cases accepted with
  | stylesheet _ parsed => exact validateRules_of_parse parsed
  | rules _ valid => exact valid

/-- Accepted rules inherit what every value has that is read. -/
theorem inherits {holds : Value → Prop} (inherited : Value.IsInherited holds)
    (ofRead : ∀ {text value}, Json.read text = .ok value → holds value)
    (accepted : Accepted rules) : holds rules := by
  cases accepted with
  | stylesheet found parsed =>
      rw [parse] at parsed
      split at parsed
      · cases parsed
        exact rulesOf_inherits inherited (ofRead found)
      · cases parsed
  | rules found _ => exact ofRead found

theorem madeOf (accepted : Accepted rules) : rules.MadeOf Number.IsShort :=
  accepted.inherits (.madeOf _) Json.read_madeOf

theorem hasUniqueKeys (accepted : Accepted rules) : rules.HasUniqueKeys :=
  accepted.inherits .hasUniqueKeys Json.read_hasUniqueKeys

/-- Accepted rules are a list of well-formed nodes. -/
theorem wellFormed (accepted : Accepted rules) :
    ∃ nodes, rules = .list nodes ∧ ∀ node ∈ nodes, WellFormed node := by
  have noViolation := validateRules_eq_ok_iff.mp accepted.validateRules_eq_ok
  exact wellFormed_of_checkRules rules accepted.madeOf.isJson noViolation

end Accepted

end Stylesheet

namespace Pass

open Stylesheet

/-- Accepted rules are pruned without a fault on whatever fails only by refusing selectors.
What is left is accepted again, by itself and as the body of a stylesheet; no rule or group in
it is empty at a level that is pruned; and it can be written unless a number of the rules is
infinite or undefined. -/
theorem prune_accepted {σ τ ε : Type} {responder : Responder σ τ ε}
    (onlyRefuses : responder.OnlyRefuses) {rules : Value} (accepted : Accepted rules)
    (options : Options) (state : σ) :
    ∃ kept, ((prune options rules).run responder state).outcome = .ok kept ∧
      validateRules (.list kept) = .ok () ∧
      parse (.object [("stylesheet", .object [("rules", .list kept)])]) = .ok (.list kept) ∧
      (∀ place fields, Exposed kept place fields →
        (fields.IsRule → fields.listAt "selectors" ≠ []) ∧
          (fields.IsGroup → fields.listAt "rules" ≠ [])) ∧
      (rules.MadeOf Number.IsFinite → ∀ room indent step,
        Json.indentOf room indent = .ok step →
          ∃ text, toJson room (.list kept) indent = .ok text) := by
  obtain ⟨nodes, rfl, wellFormed⟩ := accepted.wellFormed
  obtain ⟨kept, outcome, remnants⟩ := (prune_ensures wellFormed).run onlyRefuses state
  have valid := remnants.validateRules_eq_ok accepted.validateRules_eq_ok
  refine ⟨kept, outcome, valid, parse_of_validateRules valid, ?_, ?_⟩
  · intro place fields exposed
    have filled := remnants.isFilled exposed
    exact ⟨filled.selectors, filled.rules⟩
  · intro finite room indent step indented
    cases finite.and accepted.madeOf with
    | list each => exact toJson_ok (remnants.inherit (.madeOf _) each) indented

/-- A JSON text of two lines, with a rule in a group. -/
def nestedText : String :=
  "[\x7b\"type\":\"media\",\"rules\":[
    \x7b\"type\":\"rule\",\"selectors\":[\".top\",\"a[\"],\"line\":3\x7d]\x7d]"

/-- The rules in that text. -/
def nestedRules : Value :=
  .list [.object [("type", .text "media"), ("rules", .list [
    .object [("type", .text "rule"), ("selectors", .list [.text ".top", .text "a["]),
      ("line", .ofInt 3)]])]]

/-- Something that refuses one selector and finds elements only for the first question; the
elements are their own tops. -/
def fickle : Responder Nat Event Number where
  query selector := fun asked =>
    ⟨if selector = "a[" then .error (.invalidSelector selector)
      else .ok (if asked = 0 then [.whole 10] else []), [], asked + 1⟩
  top _ element := fun asked => ⟨.ok (.number element), [], asked + 1⟩
  position _ := fun asked => ⟨.ok .null, [], asked + 1⟩
  report := id

theorem fickle_onlyRefuses : fickle.OnlyRefuses where
  query selector asked := by
    by_cases refused : selector = "a["
    · exact .inr ⟨selector, by simp [fickle, refused]⟩
    · exact .inl ⟨if asked = 0 then [.whole 10] else [], by simp [fickle, refused]⟩
  top _ element _ := ⟨element, rfl⟩
  position _ _ := ⟨.null, rfl⟩

theorem nestedRules_accepted : Accepted nestedRules := by
  have found : Json.read nestedText = .ok nestedRules := by
    simp only [Json.read, nestedText, String.reduceToList]
    rfl
  exact .rules found rfl

theorem nestedRules_isFinite : nestedRules.MadeOf Number.IsFinite := by
  have selectors : (Value.list [.text ".top", .text "a["]).MadeOf Number.IsFinite :=
    .list (by simpa using ⟨.text ".top", .text "a["⟩)
  have line : (Value.ofInt 3).MadeOf Number.IsFinite := .number trivial
  have rule : (Value.object [("type", .text "rule"),
      ("selectors", .list [.text ".top", .text "a["]), ("line", .ofInt 3)]).MadeOf
        Number.IsFinite :=
    .object (by simpa using ⟨.text "rule", selectors, line⟩)
  have rules : (Value.list [.object [("type", .text "rule"),
      ("selectors", .list [.text ".top", .text "a["]), ("line", .ofInt 3)]]).MadeOf
        Number.IsFinite :=
    .list (by simpa using rule)
  have group : (Value.object [("type", .text "media"), ("rules", .list [.object [
      ("type", .text "rule"), ("selectors", .list [.text ".top", .text "a["]),
        ("line", .ofInt 3)]])]).MadeOf Number.IsFinite :=
    .object (by simpa using ⟨.text "media", rules⟩)
  exact .list (by simpa using group)

theorem nestedRules_prune_accepted :
    fickle.OnlyRefuses ∧ Accepted nestedRules ∧ nestedRules.MadeOf Number.IsFinite ∧
      ∃ kept, ((prune .plain nestedRules).run fickle 0).outcome = .ok kept ∧
        validateRules (.list kept) = .ok () ∧ ∃ text, toLine (.list kept) = .ok text := by
  obtain ⟨kept, outcome, valid, _, _, written⟩ :=
    prune_accepted fickle_onlyRefuses nestedRules_accepted .plain 0
  exact ⟨fickle_onlyRefuses, nestedRules_accepted, nestedRules_isFinite, kept, outcome, valid,
    written nestedRules_isFinite 0 .null none rfl⟩

end Pass

end CriticalCss
