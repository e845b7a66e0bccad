import CriticalCss.Diagnostic

/-!
# Described faults

A fault can be described by the name of its kind and by details, given in order or by name.  Most
kinds take any details in order; a few take certain details only, and remember them.
-/

namespace CriticalCss

/-- A fault made from a description, with the details that it remembers. -/
structure DescribedFault where
  fault : Fault
  attributes : Fields

namespace DescribedFault

/-- Gives names to details: those in order take the names in front, the others have one.  A name that
is not known or taken already is met before too many or too few details in order.  The record itself
counts as the first of those in order. -/
def nameDetails (record : Record) (wanted optional : List String) (inOrder : List Value)
    (byName : Fields) : Except Fault Fields := do
  let addNamed (details : Fields) (field : String × Value) : Except Fault Fields :=
    if !(wanted ++ optional).contains field.1 then throw (.unknownKeyword record field.1)
    else if details.any (·.1 == field.1) then throw (.repeatedKeyword record field.1)
    else return details ++ [field]
  let details ← byName.foldlM addNamed (wanted.zip inOrder)
  let named := (optional.filter fun name => details.any (·.1 == name)).length
  if wanted.length < inOrder.length then
    throw (.tooManyDetails record (wanted.length + 1) (inOrder.length + 1) named)
  match wanted.filter fun name => !details.any (·.1 == name) with
  | [] => return details
  | missing => throw (.missingDetails record missing)

/-- A detail of a name that is known to be there. -/
def detail (details : Fields) (name : String) : Value := (details.get? name).getD (.text "")

/-- The fault of an address that could not be opened; only a resource that counts as true is named. -/
def ofNavigation (details : Fields) : DescribedFault :=
  let url := detail details "url"
  let reason := detail details "reason"
  let resource := detail details "resource_url"
  { fault := .navigationFailed url.plain reason.plain (if resource.isTruthy then resource.plain else "")
    attributes := [("url", url), ("reason", reason), ("resource_url", resource)] }

/-- The fault of a selector that cannot be evaluated. -/
def ofSelector (selector : Value) : DescribedFault :=
  { fault := match selector with
      | .text selector => .invalidSelector selector
      | selector =>
        .reported (.other "InvalidSelectorError") [.text s!"Invalid selector: {selector.shown}"]
    attributes := [("selector", selector)] }

/-- The family of a kind that takes any details in order. -/
def familyOf (kind : String) : FaultClass :=
  match kind with
  | "InputError" => .input
  | "BrowserError" => .browser
  | "OutputError" => .output
  | kind => .other kind

/-- The fault of a description. -/
def ofDetails (kind : String) (inOrder : List Value) (byName : Fields) :
    Except Fault DescribedFault :=
  match kind with
  | "NavigationError" =>
    (nameDetails .navigationFault ["url", "reason"] ["resource_url"] inOrder byName).map ofNavigation
  | "InvalidSelectorError" =>
    (nameDetails .selectorFault ["selector"] [] inOrder byName).map fun details =>
      ofSelector (detail details "selector")
  | "PlaywrightError" =>
    (nameDetails .browserFault ["message"] [] inOrder byName).map fun details =>
      ⟨.reported (.other "Error") [detail details "message"], []⟩
  | kind =>
    if byName.isEmpty then .ok ⟨.reported (familyOf kind) inOrder, []⟩
    else .error (.noKeywords kind)

/-- The diagnostic of a described fault.  A reason that names no failure of the network has to be a
text. -/
def diagnostic (described : DescribedFault) : Except Fault Diagnostic :=
  match described.fault, described.attributes.get? "reason" with
  | .navigationFailed url reason _, some held =>
    if held.text?.isNone && (NetworkError.classify s!"{reason} at {url}").isNone then
      .error (.noMember held.kind "lower")
    else .ok (.ofFault described.fault)
  | fault, _ => .ok (.ofFault fault)

end DescribedFault

end CriticalCss
