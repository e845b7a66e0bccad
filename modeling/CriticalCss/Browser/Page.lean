import CriticalCss.Browser.Call
import CriticalCss.Document
import CriticalCss.Number.Reading
import CriticalCss.Text.Search

/-!
# The page as a document

A selector is looked up by evaluating it in the page, which gives an array with a handle for each of
its properties.  The handles of one look-up are alive until the next one; then they are released.
-/

namespace CriticalCss.Browser

/-- What a page holds: for every selector the report of a fault, or the properties of the array that
the look-up gives. -/
structure Content where
  /-- The report if a selector cannot be evaluated. -/
  evaluation : String → Option String
  /-- The properties of the array of a selector, or the report of why they cannot be had. -/
  listing : String → Except String (List Handle)

namespace Page

/-- A look-up changes which handles are alive. -/
abbrev Deed := Activity (List Handle) Step

/-- Releases a handle. -/
def releaseSteps (handle : Handle) : List Step :=
  if handle.lost then [.called (.release handle), .reported .handleGone]
  else [.called (.release handle)]

/-- Releases the handles that are alive. -/
def releaseAll : Tidying (List Handle) Step := fun live => (live.flatMap releaseSteps, [])

/-- Whether a report says that a selector is malformed. -/
def saysMalformed (report : String) : Bool :=
  Text.holds report "is not a valid selector" || Text.holds report "syntaxerror"

/-- The fault of a selector that cannot be evaluated. -/
def evaluationFault (selector report : String) : Fault :=
  if saysMalformed report then .invalidSelector selector else .browserCall report

/-- An element of the page, held by a handle. -/
structure Element where
  handle : Handle
  box : Box

/-- The element that a handle holds, with its place: the key of the property, read as a number. -/
def element? (handle : Handle) : Except Fault (Option (Nat × Element)) :=
  match handle.element with
  | none => .ok none
  | some box =>
    if Text.isDigits handle.key then
      match Integer.read handle.key.toList with
      | .ok place => .ok (some (place.toNat, ⟨handle, box⟩))
      | .error .notANumber => .error (.unreadableWhole handle.key)
      | .error (.tooLong digits) => .error (.tooManyDigits digits)
    else .ok none

/-- Takes over the properties of an array, and gives the elements among them with their places.  A
property counts as alive as soon as its key has been read. -/
def adopt : List Handle → Deed (List (Nat × Element))
  | [] => return []
  | handle :: rest => do
    let found ← Activity.ofOutcome (element? handle)
    Activity.update (· ++ [handle])
    let others ← adopt rest
    return found.toList ++ others

/-- Elements in the order of their places. -/
def inOrder (elements : List (Nat × Element)) : List Element :=
  (elements.mergeSort fun left right => decide (left.1 ≤ right.1)).map (·.2)

/-- Looks up a selector. -/
def query (content : Content) (selector : String) : Deed (List Element) := do
  Activity.tidy releaseAll
  call (.evaluate selector)
  match content.evaluation selector with
  | some report => Activity.fail (evaluationFault selector report)
  | none =>
    call (.properties selector)
    call (.releaseArray selector)
    match content.listing selector with
    | .error report => Activity.fail (.browserCall report)
    | .ok handles => do
      let elements ← adopt handles
      return inOrder elements

/-- A measured value as a double. -/
def toReal (measured : Value) : Except Fault Value :=
  match measured with
  | .number number =>
    match number.toBinary64? with
    | some real => .ok (.number (.real real))
    | none => .error .wholeTooLarge
  | .text text =>
    match Binary64.read? text.toList with
    | some real => .ok (.number (.real real))
    | none => .error (.unreadableReal measured)
  | .foreign .byteString => .error (.unreadableReal measured)
  | measured => .error (.notANumber measured.kind)

/-- Measures the top of an element while it clears floats in a given way. -/
def top (clear : String) (element : Element) : Deed Value := do
  call (.measureTop element.handle clear)
  let measured ← Activity.ofOutcome element.box.top
  Activity.ofOutcome (toReal measured)

/-- Looks how an element is positioned. -/
def position (element : Element) : Deed Value := do
  call (.measurePosition element.handle)
  Activity.ofOutcome element.box.position

/-- A page as something that answers the questions of a pass. -/
def responder (content : Content) : Responder (List Handle) Step Element where
  query := query content
  top := top
  position := position
  report := .reported

end Page

end CriticalCss.Browser
