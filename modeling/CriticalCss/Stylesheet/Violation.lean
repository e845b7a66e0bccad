import CriticalCss.Text.Quoted

/-!
# Violations of the shape of a stylesheet

Where a value departs from the shape of a stylesheet, and what was required there.
-/

namespace CriticalCss.Stylesheet

/-- The models that an object can fail to be an instance of. -/
inductive Model where
  | node
  | body
  | document
  deriving DecidableEq

/-- The name of a model in messages. -/
def Model.name : Model → String
  | node => "AstRule"
  | body => "StylesheetBody"
  | document => "StylesheetAst"

/-- What a place in a stylesheet requires. -/
inductive Requirement where
  | present
  | text
  | list
  | object (model : Model)
  /-- Nodes are not nested too deep. -/
  | depth
  deriving DecidableEq

/-- The code of a requirement in error reports. -/
def Requirement.code : Requirement → String
  | present => "missing"
  | text => "string_type"
  | list => "list_type"
  | object _ => "model_type"
  | depth => "recursion_depth_exceeded"

/-- A description of a requirement. -/
def Requirement.message : Requirement → String
  | present => "Field required"
  | text => "Input should be a valid string"
  | list => "Input should be a valid list"
  | object model => s!"Input should be a valid dictionary or instance of {model.name}"
  | depth => "Recursion error - maximum validation depth exceeded"

/-- A step on the way from the root of a value to a place in it. -/
inductive PathStep where
  | key (name : String)
  | index (position : Nat)
  deriving DecidableEq

/-- A place at which a requirement is not met. -/
structure Violation where
  path : List PathStep
  requirement : Requirement
  deriving DecidableEq

/-- The same violation seen from further up. -/
def Violation.under (step : PathStep) (violation : Violation) : Violation :=
  { violation with path := step :: violation.path }

end CriticalCss.Stylesheet
