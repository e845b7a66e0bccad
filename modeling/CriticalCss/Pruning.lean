import CriticalCss.Criticality

/-!
# Pruning rule trees

A tree of rules is pruned to what the first screen needs.  A plain rule keeps its critical selectors
and goes if it has none; a group keeps what is left of its rules and goes if nothing is; declarations
that cannot be tested stay.  Conditions of groups are not evaluated, and the order of what is kept
never changes.
-/

namespace CriticalCss

/-- What pruning does with a node, by its type. -/
inductive NodeClass where
  | rule
  | leaf
  | group
  | unsupported
  deriving DecidableEq

/-- The types of nodes that are always kept as they are. -/
def leafTypes : List String := ["charset", "import", "namespace", "font-face", "keyframes"]

/-- The types of nodes that hold rules of their own. -/
def groupTypes : List String := ["media", "document", "supports"]

/-- The class of a type that is a text. -/
def NodeClass.ofText (type : String) : NodeClass :=
  if type = "rule" then rule
  else if leafTypes.contains type then leaf
  else if groupTypes.contains type then group
  else unsupported

/-- The class of a node by its type.  Lists and objects cannot be looked up among the known types. -/
def NodeClass.ofType (type : Value) : Except Fault NodeClass :=
  match type with
  | .text type => .ok (ofText type)
  | .list _ | .object _ => .error (.unhashable type.kind)
  | _ => .ok unsupported

namespace Pass

variable {ε : Type}

/-- The selectors that are critical, in order. -/
def criticalSelectors (options : Options) : List Value → Pass ε (List Value)
  | [] => return []
  | selector :: rest => do
    let critical ← isCritical options selector
    let kept ← criticalSelectors options rest
    return if critical then selector :: kept else kept

/-- The elements of a value that a pass goes through. -/
def elementsOf (value : Value) : Pass ε (List Value) :=
  match value.elements? with
  | some elements => pure elements
  | none => fail (.notIterable value.kind)

/-- What is left of a plain rule. -/
def pruneRule (options : Options) (fields : Fields) : Pass ε (Option Value) := do
  let selectors ← elementsOf ((fields.get? "selectors").getD (.list []))
  let kept ← criticalSelectors options selectors
  if kept.isEmpty then return none
  else return some (.object (fields.put "selectors" (.list kept)))

/-- Goes through elements of which none is a node: the first one ends the pass. -/
def refuseElements (value : Value) : Pass ε (List Value) := do
  match ← elementsOf value with
  | [] => return []
  | element :: _ => fail (.noMember element.kind "get")

mutual

/-- What is left of a node. -/
def pruneNode (options : Options) : Value → Pass ε (Option Value)
  | .object fields =>
    let type := (Fields.get? fields "type").getD .null
    match NodeClass.ofType type with
    | .error fault => fail fault
    | .ok .rule => pruneRule options fields
    | .ok .leaf => return some (.object fields)
    | .ok .group => do
      let nested ← pruneNested options fields
      if nested.isEmpty then return none
      else return some (.object (Fields.put fields "rules" (.list nested)))
    | .ok .unsupported => do
      report (.droppedRule type)
      return none
  | node => fail (.noMember node.kind "get")

/-- What is left of some nodes, in order. -/
def pruneNodes (options : Options) : List Value → Pass ε (List Value)
  | [] => return []
  | node :: rest => do
    let head ← pruneNode options node
    let tail ← pruneNodes options rest
    return head.toList ++ tail

/-- What is left of the rules of a group, which are found among its fields. -/
def pruneNested (options : Options) : List (String × Value) → Pass ε (List Value)
  | [] => return []
  | (key, value) :: rest =>
    if key = "rules" then
      match value with
      | .list nodes => pruneNodes options nodes
      | value => refuseElements value
    else pruneNested options rest

end

/-- What is left of a list of rules.

Values here have no identity and are never changed, so nothing is copied before it is pruned.  What
copying does beyond that is outside the model: it gives up on rules nested deeper than the stack of
the interpreter allows, and one object that stands in two places is still one object in the copy. -/
def prune (options : Options) (rules : Value) : Pass ε (List Value) := do
  let nodes ← elementsOf rules
  let kept ← pruneNodes options nodes
  report (.keptRules kept.length nodes.length)
  return kept

end Pass

end CriticalCss
