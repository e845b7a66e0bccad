import CriticalCss.Fault

/-!
# Browser settings

How a browser is started and how a page is opened in it.
-/

namespace CriticalCss.Browser

/-- The settings of a browser session. -/
structure Settings where
  headless : Value
  viewportWidth : Value
  viewportHeight : Value
  userAgent : Value
  extraHeaders : Value
  /-- Whether requests for scripts are refused. -/
  blockScripts : Value
  /-- The longest time that opening a page may take, in milliseconds. -/
  timeout : Value
  /-- The moment at which a page counts as opened. -/
  waitUntil : Value

/-- The width of the first screen unless another one is given. -/
def standardWidth : Int := 1300

/-- The height of the first screen unless another one is given. -/
def standardHeight : Int := 900

/-- What the browser says it is unless something else is given. -/
def standardUserAgent : String :=
  "Mozilla/5.0 (Macintosh; Intel Mac OS X 10_15_7) AppleWebKit/537.36 (KHTML, like Gecko) " ++
    "Chrome/120.0.0.0 Safari/537.36 foldline"

/-- The longest time that opening a page may take unless another one is given. -/
def standardTimeout : Int := 30000

namespace Settings

/-- The settings that hold unless others are given. -/
def standard : Settings where
  headless := .ofBool true
  viewportWidth := .ofInt standardWidth
  viewportHeight := .ofInt standardHeight
  userAgent := .text standardUserAgent
  extraHeaders := .object []
  blockScripts := .ofBool true
  timeout := .ofInt standardTimeout
  waitUntil := .text "load"

/-- The names of the settings. -/
def names : List String :=
  ["headless", "viewport_width", "viewport_height", "user_agent", "extra_headers",
    "block_js_requests", "timeout_ms", "wait_until"]

/-- Settings by name; those that are not given are the standard ones. -/
def ofFields (fields : Fields) : Except Fault Settings :=
  match fields.find? fun field => !names.contains field.1 with
  | some (keyword, _) => .error (.unknownKeyword .browser keyword)
  | none =>
    let given (name : String) (standard : Value) : Value := (fields.get? name).getD standard
    .ok {
      headless := given "headless" standard.headless
      viewportWidth := given "viewport_width" standard.viewportWidth
      viewportHeight := given "viewport_height" standard.viewportHeight
      userAgent := given "user_agent" standard.userAgent
      extraHeaders := given "extra_headers" standard.extraHeaders
      blockScripts := given "block_js_requests" standard.blockScripts
      timeout := given "timeout_ms" standard.timeout
      waitUntil := given "wait_until" standard.waitUntil }

end Settings

end CriticalCss.Browser
