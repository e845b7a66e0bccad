import CriticalCss.Proofs.Browser.Lookup
import CriticalCss.Proofs.Conversation
import CriticalCss.Proofs.Pruning.Faults
import CriticalCss.Proofs.Pruning.Handling

/-!
# What pruning asks

What pruning asks is told here without the pass: for one selector after the other, in the
order of the text, nothing if the options or the shape of the selector settle that it is
critical, and otherwise one look-up and a scan of the elements found, up to the first that
shows on the first screen.  The conversation of pruning with whatever answers it is of this
form, even if the answers change as it goes on, and the first fault ends it.
-/

namespace CriticalCss

variable {ε : Type}

/-! ## Conversations about elements -/

/-- One element is measured: its top once, with nothing to clear, and its position only if the top
is not above the edge. -/
inductive Measures (height : Number) (element : ε) :
    List (Exchange ε) → Except Fault Bool → Prop where
  | above {top : Value} : top.less (.number height) = .ok true →
      Measures height element [.measured "none" element (.ok top)] (.ok true)
  | below {top position : Value} : top.less (.number height) = .ok false →
      Measures height element
        [.measured "none" element (.ok top), .positioned element (.ok position)]
        (.ok (position.isText "fixed"))
  | unmeasured {fault : Fault} :
      Measures height element [.measured "none" element (.error fault)] (.error fault)
  | unplaced {top : Value} {fault : Fault} : top.less (.number height) = .ok false →
      Measures height element
        [.measured "none" element (.ok top), .positioned element (.error fault)]
        (.error fault)
  /-- The top is no number. -/
  | unordered {top : Value} {kinds : Value.Unordered} :
      top.less (.number height) = .error kinds →
      Measures height element [.measured "none" element (.ok top)]
        (.error (.unordered "<" kinds.left kinds.right))

/-- Elements are measured in order, up to and including the first that shows on the first screen. -/
inductive Scans (height : Number) : List ε → List (Exchange ε) → Except Fault Bool → Prop where
  | none : Scans height [] [] (.ok false)
  | hit {element : ε} {rest : List ε} {talk : List (Exchange ε)} :
      Measures height element talk (.ok true) → Scans height (element :: rest) talk (.ok true)
  | miss {element : ε} {rest : List ε} {talk further : List (Exchange ε)}
      {outcome : Except Fault Bool} :
      Measures height element talk (.ok false) → Scans height rest further outcome →
      Scans height (element :: rest) (talk ++ further) outcome
  | stop {element : ε} {rest : List ε} {talk : List (Exchange ε)} {fault : Fault} :
      Measures height element talk (.error fault) →
      Scans height (element :: rest) talk (.error fault)

/-! ## Conversations about selectors -/

/-- A selector is critical whatever the page holds: it is always kept, it is an at-rule, or it
consists of pseudo selectors only. -/
def Options.Settle (options : Options) (selector : String) : Prop :=
  options.keeps (Text.trim selector) = true ∨ selector.toList.head? = some '@' ∨
    Selector.reduce selector = none

/-- Unless it is settled that a selector is critical, it is looked up by its reduction first, and a
refusal makes it uncritical. -/
theorem Pass.isCriticalText_of_unsettled {options : Options} {selector reduced : String}
    (unsettled : ¬options.Settle selector) (reduction : Selector.reduce selector = some reduced) :
    ∃ next : Except Fault (List ε) → Pass ε Bool,
      Pass.isCriticalText options selector = .query reduced next ∧
        ∀ named, next (.error (.invalidSelector named)) =
          .note (.droppedSelector selector reduced) (.done (.ok false)) := by
  have notKept : ¬options.keeps (Text.trim selector) = true := fun kept => unsettled (.inl kept)
  have notAtRule : selector.toList.head? ≠ some '@' := fun atRule => unsettled (.inr (.inl atRule))
  rw [Pass.isCriticalText, if_neg notKept, if_neg notAtRule]
  simp only [reduction]
  exact ⟨_, rfl, fun named => rfl⟩

/-- One selector is asked about: it is looked up once, reduced, and the elements found are scanned. -/
inductive Tries (options : Options) (selector : String) :
    List (Exchange ε) → Except Fault Bool → Prop where
  | settled : options.Settle selector → Tries options selector [] (.ok true)
  | refused {reduced refused : String} :
      ¬options.Settle selector → Selector.reduce selector = some reduced →
      Tries options selector [.queried reduced (.error (.invalidSelector refused))] (.ok false)
  | failed {reduced : String} {fault : Fault} :
      ¬options.Settle selector → Selector.reduce selector = some reduced → ¬fault.IsRefusal →
      Tries options selector [.queried reduced (.error fault)] (.error fault)
  | found {reduced : String} {elements : List ε} {talk : List (Exchange ε)}
      {outcome : Except Fault Bool} :
      ¬options.Settle selector → Selector.reduce selector = some reduced →
      Scans options.viewportHeight elements talk outcome →
      Tries options selector (.queried reduced (.ok elements) :: talk) outcome

/-- The fault of an outcome. -/
def faultOf {α : Type} : Except Fault α → Option Fault
  | .ok _ => none
  | .error fault => some fault

/-- Selectors are asked about one after the other, until there is a fault. -/
inductive Inquires (options : Options) :
    List Value → List (Exchange ε) → Option Fault → Prop where
  | done : Inquires options [] [] none
  | next {selector : String} {selectors : List Value} {talk further : List (Exchange ε)}
      {critical : Bool} {fault? : Option Fault} :
      Tries options selector talk (.ok critical) → Inquires options selectors further fault? →
      Inquires options (.text selector :: selectors) (talk ++ further) fault?
  | stop {selector : String} {selectors : List Value} {talk : List (Exchange ε)} {fault : Fault} :
      Tries options selector talk (.error fault) →
      Inquires options (.text selector :: selectors) talk (some fault)
  /-- Bytes pass for a text when they are checked, but nothing can be asked about them. -/
  | bytes {selectors : List Value} {fault : Fault} : fault.isMisfit = true →
      Inquires options (.foreign .byteString :: selectors) [] (some fault)

/-! ## Which selectors are asked about -/

mutual

/-- The selectors of a node if it is a rule, or of the rules in it if it is a group, at any depth. -/
def selectorsWithin : Value → List Value
  | .object fields =>
    match Fields.get? fields "type" with
    | some (.text type) =>
      if type = "rule" then (Fields.elementsAt fields "selectors").getD []
      else if groupTypes.contains type then selectorsOfGroup fields
      else []
    | _ => []
  | _ => []

/-- The selectors of all rules around which there are only groups, in the order of the text. -/
def exposedSelectors : List Value → List Value
  | [] => []
  | node :: rest => selectorsWithin node ++ exposedSelectors rest

/-- The exposed selectors of the rules that are found among the fields of a group. -/
def selectorsOfGroup : List (String × Value) → List Value
  | [] => []
  | (key, value) :: rest =>
    if key = "rules" then
      match value with
      | .list nodes => exposedSelectors nodes
      | _ => []
    else selectorsOfGroup rest

end

section

variable {fields : Fields}

theorem selectorsWithin_of_rule (isRule : fields.IsRule) {selectors : List Value}
    (elements : fields.elementsAt "selectors" = some selectors) :
    selectorsWithin (.object fields) = selectors := by
  have typed : fields.get? "type" = some (.text "rule") := isRule
  simp [selectorsWithin, typed, elements]

theorem selectorsOfGroup_eq (fields : Fields) :
    selectorsOfGroup fields = exposedSelectors (fields.listAt "rules") := by
  induction fields with
  | nil => simp [selectorsOfGroup, exposedSelectors, Fields.listAt, Fields.get?]
  | cons field rest ih =>
      obtain ⟨key, value⟩ := field
      by_cases isRules : key = "rules"
      · cases value <;>
          simp [selectorsOfGroup, exposedSelectors, Fields.listAt, Fields.get?_cons, isRules]
      · have same : Fields.listAt ((key, value) :: rest) "rules" = Fields.listAt rest "rules" := by
          simp [Fields.listAt, Fields.get?_cons, isRules]
        rw [selectorsOfGroup.eq_def, same, ← ih]
        simp only [if_neg isRules]

theorem selectorsWithin_of_group (isGroup : fields.IsGroup) :
    selectorsWithin (.object fields) = exposedSelectors (fields.listAt "rules") := by
  have notRule := isGroup.not_isRule
  obtain ⟨type, known, typed⟩ := isGroup
  have different : type ≠ "rule" := by
    rintro rfl
    exact notRule typed
  simp [selectorsWithin, typed, different, known, selectorsOfGroup_eq]

theorem selectorsWithin_of_other (notRule : ¬fields.IsRule) (notGroup : ¬fields.IsGroup) :
    selectorsWithin (.object fields) = [] := by
  rw [selectorsWithin]
  split
  next type typed =>
    have different : type ≠ "rule" := by
      rintro rfl
      exact notRule typed
    have unknown : type ∉ groupTypes := fun known => notGroup ⟨type, known, typed⟩
    simp [different, unknown]
  next => rfl

end

/-! ## Conversations in a row -/

section

variable {options : Options} {selectors others : List Value} {talk further : List (Exchange ε)}

namespace Inquires

/-- Selectors that can all be asked about may be followed by others. -/
theorem append {fault? : Option Fault} (inquires : Inquires options selectors talk none)
    (onward : Inquires options others further fault?) :
    Inquires options (selectors ++ others) (talk ++ further) fault? := by
  generalize ended : (none : Option Fault) = none? at inquires
  induction inquires with
  | done => exact onward
  | next asks _ ih =>
      rw [List.append_assoc]
      exact .next asks (ih ended)
  | stop _ => cases ended
  | bytes _ => cases ended

/-- A fault ends it all, whatever selectors would have followed. -/
theorem append_of_fault {fault : Fault} (inquires : Inquires options selectors talk (some fault)) :
    Inquires options (selectors ++ others) talk (some fault) := by
  generalize ended : some fault = fault? at inquires
  induction inquires with
  | done => cases ended
  | next asks _ ih => exact .next asks (ih ended)
  | stop asks =>
      cases ended
      exact .stop asks
  | bytes misfit =>
      cases ended
      exact .bytes misfit

end Inquires

end

/-! ## What the parts of pruning ask -/

namespace Pass

open Stylesheet

section

variable {options : Options} {α β : Type}

theorem isAboveFold_measures (height : Number) (element : ε) :
    (isAboveFold (.number height) element).Converses (Measures height element) := by
  intro top
  cases top with
  | error fault => exact .unmeasured
  | ok top =>
      simp only [Pass.bind]
      cases compared : top.less (.number height) with
      | error kinds => exact .unordered compared
      | ok above =>
          cases above with
          | true => exact .above compared
          | false =>
              intro position
              cases position with
              | error fault => exact .unplaced compared
              | ok position =>
                  have measures : Measures height element
                      [.measured "none" element (.ok top), .positioned element (.ok position)]
                      (.ok (position.isText "fixed")) := .below compared
                  simp only [Pass.bind]
                  cases fixed : position.isText "fixed" with
                  | true =>
                      rw [fixed] at measures
                      exact measures
                  | false =>
                      rw [fixed] at measures
                      exact measures

theorem anyAboveFold_scans (height : Number) (elements : List ε) :
    (anyAboveFold (.number height) elements).Converses (Scans height elements) := by
  induction elements with
  | nil => exact .none
  | cons element rest ih =>
      refine (isAboveFold_measures height element).bind (fun talk above measures => ?_)
        fun talk fault measures => .stop measures
      cases above with
      | true =>
          have scans : Scans height (element :: rest) (talk ++ []) (.ok true) := by
            rw [List.append_nil]
            exact .hit measures
          exact scans
      | false => exact ih.mono fun further outcome scans => .miss measures scans

theorem isCriticalText_tries (options : Options) (selector : String) :
    (isCriticalText options selector : Pass ε Bool).Converses (Tries options selector) := by
  unfold isCriticalText
  by_cases kept : options.keeps (Text.trim selector) = true
  · rw [if_pos kept]
    exact .settled (.inl kept)
  by_cases atRule : selector.toList.head? = some '@'
  · rw [if_neg kept, if_pos atRule]
    exact .settled (.inr (.inl atRule))
  rw [if_neg kept, if_neg atRule]
  cases reduction : Selector.reduce selector with
  | none => exact .settled (.inr (.inr reduction))
  | some reduced =>
      have unsettled : ¬options.Settle selector := by simp [Options.Settle, kept, atRule, reduction]
      intro reply
      cases reply with
      | ok elements =>
          exact (anyAboveFold_scans options.viewportHeight elements).mono
            fun talk outcome scans => .found unsettled reduction scans
      | error fault =>
          cases fault with
          | invalidSelector refused => exact .refused unsettled reduction
          | _ => exact .failed unsettled reduction (by simp [Fault.IsRefusal])

/-- A pass asks about selectors one after the other, and fails only with the fault that ends this. -/
def AsksAbout (options : Options) (selectors : List Value) (pass : Pass ε α) : Prop :=
  pass.Converses fun talk outcome => Inquires options selectors talk (faultOf outcome)

namespace AsksAbout

variable {selectors others : List Value}

theorem give (result : α) : (done (.ok result) : Pass ε α).AsksAbout options [] :=
  Inquires.done

theorem bind {pass : Pass ε α} {next : α → Pass ε β} (first : pass.AsksAbout options selectors)
    (rest : ∀ result, (next result).AsksAbout options others) :
    (pass.bind next).AsksAbout options (selectors ++ others) := by
  refine Converses.bind first (fun talk result inquires => ?_) fun talk fault inquires => ?_
  · exact (rest result).mono fun further outcome onward => inquires.append onward
  · exact inquires.append_of_fault

/-- Nothing is asked when a result is turned into another. -/
theorem map {pass : Pass ε α} (asks : pass.AsksAbout options selectors) (turn : α → β) :
    (pass.bind fun result => done (.ok (turn result))).AsksAbout options selectors := by
  rw [← List.append_nil selectors]
  apply asks.bind
  intro result
  exact give (turn result)

end AsksAbout

theorem isCritical_asksAbout (options : Options) {selector : Value}
    (accepted : checkText selector = []) :
    (isCritical options selector : Pass ε Bool).AsksAbout options [selector] := by
  cases selector with
  | text text =>
      refine (isCriticalText_tries options text).mono fun talk outcome asks => ?_
      cases outcome with
      | ok critical =>
          rw [← List.append_nil talk]
          exact .next asks .done
      | error fault => exact .stop asks
  | foreign kind =>
      cases kind with
      | byteString =>
          simp only [isCritical]
          split
          · exact Inquires.bytes rfl
          next failed => exact Inquires.bytes (isForceIncluded_isMisfit failed)
      | _ => cases accepted
  | _ => cases accepted

/-- Selectors that pass the check are asked about one after the other. -/
theorem criticalSelectors_asksAbout (options : Options) {selectors : List Value} {index : Nat}
    (accepted : checkTexts index selectors = []) :
    (criticalSelectors options selectors : Pass ε (List Value)).AsksAbout options selectors := by
  induction selectors generalizing index with
  | nil => exact .give []
  | cons selector rest ih =>
      simp only [checkTexts, List.append_eq_nil_iff, underIndex_eq_nil] at accepted
      obtain ⟨isText, areTexts⟩ := accepted
      exact (isCritical_asksAbout options isText).bind fun critical => (ih areTexts).map _

theorem pruneNodes_asksAbout {nodes : List Value}
    (each : ∀ node ∈ nodes,
      (pruneNode options node : Pass ε (Option Value)).AsksAbout options (selectorsWithin node)) :
    (pruneNodes options nodes : Pass ε (List Value)).AsksAbout options (exposedSelectors nodes) := by
  induction nodes with
  | nil =>
      simp only [pruneNodes, exposedSelectors]
      exact .give []
  | cons node rest ih =>
      simp only [pruneNodes, exposedSelectors]
      have others := ih fun other member => each other (by simp [member])
      exact (each node (by simp)).bind fun left => others.map _

/-- About a node that passes the check, all that is asked is what there is to ask about the rules
in it. -/
theorem pruneNode_asksAbout (options : Options) (node : Value) {levels : Nat}
    (accepted : checkNode levels node = []) :
    (pruneNode options node : Pass ε (Option Value)).AsksAbout options (selectorsWithin node) := by
  induction node using Value.node_induction generalizing levels with
  | node node ih =>
      cases @handling ε node with
      | rule isRule elements handled =>
          have ⟨_, _, selectorsOk, _⟩ := checkNode_object_eq_nil.mp accepted
          rw [handled, selectorsWithin_of_rule isRule elements]
          have areTexts := checkTexts_elementsAt selectorsOk elements
          exact (criticalSelectors_asksAbout options areTexts).map _
      | leaf isLeaf handled =>
          have notGroup : ¬Fields.IsGroup _ := fun isGroup => isGroup.not_isLeaf isLeaf
          rw [handled, selectorsWithin_of_other isLeaf.not_isRule notGroup]
          exact .give _
      | group isGroup handled =>
          have ⟨_, _, _, rulesOk⟩ := checkNode_object_eq_nil.mp accepted
          rw [handled, selectorsWithin_of_group isGroup]
          refine (pruneNodes_asksAbout fun child member => ?_).map _
          exact ih _ rfl child member (checkNode_of_mem (checkNodes_of_optional rulesOk) member)
      | dropped notRule notGroup handled =>
          rw [handled, selectorsWithin_of_other notRule notGroup]
          exact .give _
      | refused refuses _ => exact absurd accepted (refuses levels)

/-- About rules that pass the check, all that is asked is what there is to ask about the rules
around which there are only groups. -/
theorem prune_asksAbout (options : Options) {rules : Value}
    (accepted : validateRules rules = .ok ()) :
    (prune options rules : Pass ε (List Value)).AsksAbout options
      (exposedSelectors (rules.elements?.getD [])) := by
  rw [validateRules_eq_ok_iff, checkRules.eq_def] at accepted
  obtain ⟨nodes, elements, nodesOk⟩ : ∃ nodes, rules.elements? = some nodes ∧
      checkNodes levelLimit 0 nodes = [] := by
    split at accepted
    next nodes => exact ⟨nodes, rfl, accepted⟩
    next => exact ⟨[], rfl, by simp [checkNodes]⟩
    next => cases accepted
  have asks : (pruneNodes options nodes : Pass ε (List Value)).AsksAbout options
      (exposedSelectors nodes) :=
    pruneNodes_asksAbout fun node member =>
      pruneNode_asksAbout options node (checkNode_of_mem nodesOk member)
  simp only [prune, elementsOf, elements, Option.getD_some]
  rw [← List.append_nil (exposedSelectors nodes)]
  exact asks.bind fun kept => AsksAbout.give kept

/-- A conversation breaks off at the first question that is answered with a fault, other than the
refusal of a selector that is looked up, and this fault is the outcome. -/
def BreaksOff (talk : List (Exchange ε)) (outcome : Except Fault α) : Prop :=
  ∀ before exchange after fault, talk = before ++ exchange :: after →
    exchange.fault? = some fault → after = [] ∧ outcome = .error fault

theorem breaksOff_nil (outcome : Except Fault α) : BreaksOff ([] : List (Exchange ε)) outcome := by
  intro before exchange after fault split
  simp at split

/-- One exchange more in front does not matter if it holds no fault, or if nothing is behind it. -/
theorem BreaksOff.cons {exchange : Exchange ε} {talk : List (Exchange ε)}
    {outcome : Except Fault α} (breaksOff : BreaksOff talk outcome)
    (harmless : ∀ fault, exchange.fault? = some fault → talk = [] ∧ outcome = .error fault) :
    BreaksOff (exchange :: talk) outcome := by
  intro before other after fault split failed
  cases before with
  | nil =>
      cases split
      exact harmless fault failed
  | cons first earlier =>
      cases split
      exact breaksOff earlier other after fault rfl failed

/-- A pass that ends on faults breaks off its conversations. -/
theorem EndsOnFault.breaksOff {pass : Pass ε α} (ends : pass.EndsOnFault) :
    pass.Converses BreaksOff := by
  induction pass with
  | done outcome => exact breaksOff_nil outcome
  | note event rest ih => exact ih ends
  | query selector next ih =>
      obtain ⟨found, failed⟩ := ends
      intro reply
      cases reply with
      | ok elements =>
          refine (ih _ (found elements)).mono fun talk outcome breaksOff => ?_
          exact breaksOff.cons fun other holds => by cases holds
      | error fault =>
          rcases failed fault with finishes | ⟨⟨refused, rfl⟩, onward⟩
          · rw [finishes]
            refine (breaksOff_nil _).cons fun other holds => ⟨rfl, ?_⟩
            rw [Exchange.eq_of_fault?_queried holds]
          · refine (ih _ onward).mono fun talk outcome breaksOff => ?_
            exact breaksOff.cons fun other holds => by cases holds
  | top _ element next ih | position element next ih =>
      obtain ⟨measured, failed⟩ := ends
      intro reply
      cases reply with
      | ok value =>
          refine (ih _ (measured value)).mono fun talk outcome breaksOff => ?_
          exact breaksOff.cons fun other holds => by cases holds
      | error fault =>
          rw [failed]
          refine (breaksOff_nil _).cons fun other holds => ⟨rfl, ?_⟩
          cases holds
          rfl

/-- On the page of a browser, what measures elements with nothing to clear says so in its calls. -/
theorem IsUncleared.clear_of_measured {pass : Pass Browser.Page.Element α}
    (uncleared : pass.IsUncleared) (content : Browser.Content) (live : List Browser.Handle)
    {handle : Browser.Handle} {clear : String}
    (measured : .called (.measureTop handle clear) ∈
      (pass.run (Browser.Page.responder content) live).steps) : clear = "none" := by
  cases (Browser.Page.run_isAsking uncleared content live).1 _ measured
  rfl

/-- Pruning accepted rules asks what there is to ask about the exposed selectors, whatever the
answers are and however they change; the first fault that is no refusal of a selector is the last
answer and the outcome; and on the page of a browser elements are measured with nothing to clear. -/
theorem prune_inquires {σ τ : Type} (responder : Responder σ τ ε) (options : Options)
    {rules : Value} (accepted : validateRules rules = .ok ()) (state : σ) :
    Inquires options (exposedSelectors (rules.elements?.getD []))
        (responder.conversation (prune options rules) state)
        (faultOf ((prune options rules).run responder state).outcome) ∧
      BreaksOff (responder.conversation (prune options rules) state)
        ((prune options rules).run responder state).outcome ∧
      ∀ (content : Browser.Content) live handle clear,
        .called (.measureTop handle clear) ∈
          ((prune options rules).run (Browser.Page.responder content) live).steps →
        clear = "none" :=
  ⟨(prune_asksAbout options accepted).run responder state,
    (prune_endsOnFault options rules).breaksOff.run responder state,
    fun content live _ _ => (prune_isUncleared options rules).clear_of_measured content live⟩

end

/-- A page that refuses one selector and fails at the third look-up. -/
def wearyResponder : Responder Nat Unit Nat where
  query selector := fun count =>
    ⟨if selector = ".crooked" then .error (.invalidSelector selector)
      else if count < 2 then .ok [0, 1, 2]
      else .error (.browserCall "gone"), [], count + 1⟩
  top _ element := fun count => ⟨.ok (.ofInt (if element = 1 then 50 else 2000)), [], count⟩
  position _ := fun count => ⟨.ok (.text "static"), [], count⟩
  report _ := ()

/-- A rule, and one in a group, of which the last selector is not reached. -/
def wearyingRules : Value :=
  .list [.object [("type", .text "rule"),
      ("selectors", .list [.text ".hero", .text "::-moz-placeholder", .text ".crooked"])],
    .object [("type", .text "media"), ("rules", .list [.object [("type", .text "rule"),
      ("selectors", .list [.text ".late", .text ".never"])]])]]

theorem wearyingRules_inquires :
    Stylesheet.validateRules wearyingRules = .ok () ∧
      (wearyResponder.conversation (prune Options.plain wearyingRules) 0).length = 6 ∧
      Inquires Options.plain (exposedSelectors (wearyingRules.elements?.getD []))
        (wearyResponder.conversation (prune Options.plain wearyingRules) 0)
        (faultOf ((prune Options.plain wearyingRules).run wearyResponder 0).outcome) ∧
      BreaksOff (wearyResponder.conversation (prune Options.plain wearyingRules) 0)
        ((prune Options.plain wearyingRules).run wearyResponder 0).outcome ∧
      ∀ (content : Browser.Content) live handle clear,
        .called (.measureTop handle clear) ∈
          ((prune Options.plain wearyingRules).run (Browser.Page.responder content) live).steps →
        clear = "none" :=
  have accepted : Stylesheet.validateRules wearyingRules = .ok () := by rfl
  ⟨accepted, by decide +kernel, prune_inquires wearyResponder Options.plain accepted 0⟩

end Pass

end CriticalCss
