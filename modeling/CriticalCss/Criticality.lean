import CriticalCss.Options
import CriticalCss.Pass
import CriticalCss.Selector

/-!
# Which selectors are critical

A selector is critical if it is always kept, if it is an at-rule that stands among the rules, if it
consists of pseudo selectors only, or if one of the elements that it selects shows on the first
screen.
-/

namespace CriticalCss.Pass

variable {ε : Type}

/-- Whether an element shows on the first screen: its top lies above the lower edge, or it has a
fixed position. -/
def isAboveFold (viewportHeight : Value) (element : ε) : Pass ε Bool := do
  let top ← topOf element
  match top.less viewportHeight with
  | .error kinds => fail (.unordered "<" kinds.left kinds.right)
  | .ok true => return true
  | .ok false =>
    let position ← positionOf element
    if position.isText "fixed" then
      report .keptFixedElement
      return true
    else return false

/-- Whether one of some elements shows on the first screen, measured in order up to the first that
does. -/
def anyAboveFold (viewportHeight : Value) : List ε → Pass ε Bool
  | [] => return false
  | element :: rest => do
    if ← isAboveFold viewportHeight element then return true
    else anyAboveFold viewportHeight rest

/-- Whether a selector that is a text is critical. -/
def isCriticalText (options : Options) (selector : String) : Pass ε Bool :=
  if options.keeps (Text.trim selector) then pure true
  else if selector.toList.head? = some '@' then pure true
  else match Selector.reduce selector with
    | none => pure true
    | some reduced => query reduced fun
      | .ok elements => anyAboveFold (.number options.viewportHeight) elements
      | .error (.invalidSelector _) => note (.droppedSelector selector reduced) (pure false)
      | .error fault => fail fault

/-- Whether a selector is critical.  A byte string is compared with the entries in order, and a
pattern refuses it; it then fails where a text would be looked at. -/
def isCritical (options : Options) (selector : Value) : Pass ε Bool :=
  match selector with
  | .text selector => isCriticalText options selector
  | .foreign .byteString =>
    match options.isForceIncluded selector with
    | .ok _ => fail .startOfBytes
    | .error fault => fail fault
  | selector => fail (.noMember selector.kind "strip")

end CriticalCss.Pass
