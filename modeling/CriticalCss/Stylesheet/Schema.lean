import CriticalCss.Fault

/-!
# The shape of a stylesheet

A stylesheet is an object with a body, and the body holds a list of nodes.  A node is an object with
a type; its selectors and its nested nodes may be missing but not be anything else than lists.  Other
keys are free.  A check finds every violation, from the outside inward and in the order type,
selectors, rules.  It goes down to a limited number of levels of nodes and refuses what lies deeper.
-/

namespace CriticalCss.Stylesheet

/-- The violation that a place does not meet a requirement. -/
def unmet (requirement : Requirement) : List Violation := [⟨[], requirement⟩]

/-- Violations found under a key. -/
def underKey (key : String) (violations : List Violation) : List Violation :=
  violations.map (·.under (.key key))

/-- Violations found under an index. -/
def underIndex (index : Nat) (violations : List Violation) : List Violation :=
  violations.map (·.under (.index index))

/-- Checks a text; bytes that are a text are one too. -/
def checkText : Value → List Violation
  | .text _ | .foreign .byteString => []
  | _ => unmet .text

/-- Checks texts from an index on. -/
def checkTexts : (index : Nat) → List Value → List Violation
  | _, [] => []
  | index, item :: rest => underIndex index (checkText item) ++ checkTexts (index + 1) rest

/-- Checks a list of texts. -/
def checkSelectors : Value → List Violation
  | .list items => checkTexts 0 items
  | .foreign .emptySet => []
  | _ => unmet .list

/-- Checks the value of a key that has to be there. -/
def checkRequired (check : Value → List Violation) (key : String) (fields : Fields) :
    List Violation :=
  underKey key <| match fields.get? key with
    | some value => check value
    | none => unmet .present

/-- Checks the value of a key that may be missing. -/
def checkOptional (check : Value → List Violation) (key : String) (fields : Fields) :
    List Violation :=
  match fields.get? key with
  | some value => underKey key (check value)
  | none => []

mutual

/-- Checks a node, if there is a level left for it. -/
def checkNode (levels : Nat) : Value → List Violation
  | .object fields =>
    if levels = 0 then unmet .depth
    else checkRequired checkText "type" fields ++
      checkOptional checkSelectors "selectors" fields ++ checkNested (levels - 1) fields
  | _ => if levels = 0 then unmet .depth else unmet (.object .node)

/-- Checks the rules among the fields of a node. -/
def checkNested (levels : Nat) : List (String × Value) → List Violation
  | [] => []
  | (key, value) :: rest =>
    if key = "rules" then underKey "rules" (checkRules levels value) else checkNested levels rest

/-- Checks a list of nodes. -/
def checkRules (levels : Nat) : Value → List Violation
  | .list nodes => checkNodes levels 0 nodes
  | .foreign .emptySet => []
  | _ => unmet .list

/-- Checks nodes from an index on. -/
def checkNodes (levels : Nat) : (index : Nat) → List Value → List Violation
  | _, [] => []
  | index, node :: rest =>
    underIndex index (checkNode levels node) ++ checkNodes levels (index + 1) rest

end

/-- The number of levels of nodes that are checked. -/
def levelLimit : Nat := 254

/-- Checks the body of a stylesheet. -/
def checkBody : Value → List Violation
  | .object fields => checkOptional (checkRules levelLimit) "rules" fields
  | _ => unmet (.object .body)

/-- Checks a stylesheet. -/
def check : Value → List Violation
  | .object fields =>
    checkOptional checkText "type" fields ++ checkRequired checkBody "stylesheet" fields
  | _ => unmet (.object .document)

/-- The rules in the body of a stylesheet, or none if it has no list of them. -/
def rulesOf (stylesheet : Value) : Value :=
  match stylesheet with
  | .object fields =>
    match Fields.get? fields "stylesheet" with
    | some (.object body) => (Fields.get? body "rules").getD (.list [])
    | _ => .list []
  | _ => .list []

/-- The rules of a stylesheet that has the required shape. -/
def parse (stylesheet : Value) : Except Fault Value :=
  match check stylesheet with
  | [] => .ok (rulesOf stylesheet)
  | violations => .error (.malformedStylesheet violations)

/-- Accepts a list of rules that has the required shape. -/
def validateRules (rules : Value) : Except Fault Unit :=
  match checkRules levelLimit rules with
  | [] => .ok ()
  | violations => .error (.malformedRules violations)

/-- The text of a list of rules, on one line or indented; there is room for some spaces. -/
def toJson (room : Nat) (rules indent : Value) : Except Fault String :=
  match rules.elements? with
  | none => .error (.rulesNotIterable rules.kind)
  | some nodes =>
    match Json.indentOf room indent >>= fun indent => Json.write ⟨false, indent⟩ (.list nodes) with
    | .ok text => .ok text
    | .error reason => .error (.unwritable reason)

/-- The text of a list of rules on one line, which takes no room for spaces. -/
def toLine (rules : Value) : Except Fault String := toJson 0 rules .null

end CriticalCss.Stylesheet
