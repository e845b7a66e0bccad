import CriticalCss.Browser.Settings
import CriticalCss.Options

/-!
# Settings of an extraction

Everything that an extraction needs besides an address and rules.  From the settings come the options
of the classification and the settings of the browser; both are checked on the way.
-/

namespace CriticalCss.Extraction

/-- The settings of an extraction. -/
structure Settings where
  width : Value
  height : Value
  forceInclude : Value
  userAgent : Value
  /-- How long the page is left to settle, in milliseconds. -/
  renderWait : Value
  blockScripts : Value
  extraHeaders : Value
  timeout : Value
  headless : Value

/-- The name of a header whose key is a value. -/
def headerName (key : Value) : String :=
  match key with
  | .text name => name
  | .null => "null"
  | .number (.truth value) => if value then "true" else "false"
  | key => key.shown

/-- The header that an element of a list of pairs stands for, by its key. -/
def headerOf (index : Nat) (pair : Value) : Except Fault (Value × Value) :=
  match pair.elements? with
  | none => .error (.notAPair index)
  | some [key, value] =>
    match key with
    | .list _ | .object _ | .foreign .emptySet => .error (.unhashable key.kind)
    | key => .ok (key, value)
  | some items => .error (.pairLength index items.length)

/-- The headers of the elements of a list of pairs, from an index on. -/
def headersFrom : (index : Nat) → List Value → Except Fault (List (Value × Value))
  | _, [] => .ok []
  | index, pair :: rest => do
    let header ← headerOf index pair
    let headers ← headersFrom (index + 1) rest
    return header :: headers

/-- Sets the header of a key: in its place if an equal key is there, and at the end if none is. -/
def putHeader : List (Value × Value) → Value × Value → List (Value × Value)
  | [], header => [header]
  | (key, held) :: rest, header =>
    if key.same header.1 then (key, header.2) :: rest else (key, held) :: putHeader rest header

/-- Headers given as an object or as a list of pairs.  Of equal keys the first gives the name and the
last the value. -/
def headers (value : Value) : Except Fault Fields :=
  match value with
  | .object fields => .ok fields
  | value =>
    match value.elements? with
    | none => .error (.notIterable value.kind)
    | some elements => do
      let pairs ← headersFrom 0 elements
      let merged := pairs.foldl putHeader []
      return Fields.ofPairs (merged.map fun header => (headerName header.1, header.2))

namespace Settings

/-- The settings that hold unless others are given. -/
def standard : Settings where
  width := .ofInt Browser.standardWidth
  height := .ofInt Browser.standardHeight
  forceInclude := .list []
  userAgent := .text Browser.standardUserAgent
  renderWait := Options.standardDelay
  blockScripts := .ofBool true
  extraHeaders := .object []
  timeout := .ofInt Browser.standardTimeout
  headless := .ofBool true

/-- The names of the settings. -/
def names : List String :=
  ["width", "height", "force_include", "user_agent", "render_wait_ms", "block_js_requests",
    "extra_headers", "timeout_ms", "headless"]

/-- Settings by name; those that are not given are the standard ones. -/
def ofFields (fields : Fields) : Except Fault Settings :=
  match fields.find? fun field => !names.contains field.1 with
  | some (keyword, _) => .error (.unknownKeyword .extraction keyword)
  | none =>
    let given (name : String) (standard : Value) : Value := (fields.get? name).getD standard
    .ok {
      width := given "width" standard.width
      height := given "height" standard.height
      forceInclude := given "force_include" standard.forceInclude
      userAgent := given "user_agent" standard.userAgent
      renderWait := given "render_wait_ms" standard.renderWait
      blockScripts := given "block_js_requests" standard.blockScripts
      extraHeaders := given "extra_headers" standard.extraHeaders
      timeout := given "timeout_ms" standard.timeout
      headless := given "headless" standard.headless }

/-- The families of faults that count as faults of the options. -/
def optionFamilies : List FaultClass := [.other "ValueError", .other "TypeError", .other "error"]

/-- The options of the classification.  What is wrong with them is a fault of the input, if it is of
one of those families; a fault of another family is passed on as it is. -/
def options (settings : Settings) : Except Fault Options :=
  match Options.build settings.forceInclude settings.height settings.renderWait with
  | .ok options => .ok options
  | .error cause =>
    if optionFamilies.contains cause.family then .error (.invalidOptions cause) else .error cause

/-- The settings of the browser. -/
def browser (settings : Settings) : Except Fault Browser.Settings := do
  let width ← Options.comparable "<=" settings.width
  if width.atMost (.whole 0) then throw (.naming settings.width (.widthNotPositive width))
  let headers ← headers settings.extraHeaders
  return {
    headless := settings.headless
    viewportWidth := settings.width
    viewportHeight := settings.height
    userAgent := settings.userAgent
    extraHeaders := .object headers
    blockScripts := settings.blockScripts
    timeout := settings.timeout
    waitUntil := .text "load" }

end Settings

end CriticalCss.Extraction
