import CriticalCss.Value.Shown

/-!
# Events

What is reported to the log while selectors are classified, a page is loaded and a browser is run.
-/

namespace CriticalCss

/-- How important an event is. -/
inductive Level where
  | debug
  | info
  | warning
  | error
  | critical
  deriving DecidableEq

/-- The name of a level. -/
def Level.name : Level → String
  | debug => "DEBUG"
  | info => "INFO"
  | warning => "WARNING"
  | error => "ERROR"
  | critical => "CRITICAL"

/-- The rank of a level; a log shows the events from some rank on. -/
def Level.rank : Level → Nat
  | debug => 10
  | info => 20
  | warning => 30
  | error => 40
  | critical => 50

/-- Something worth reporting. -/
inductive Event where
  -- classification
  | keptFixedElement
  | droppedSelector (selector reduced : String)
  | droppedRule (type : Value)
  | keptRules (kept total : Nat)
  | waiting (delay : Number)
  | passStarted
  | passDone
  -- browser
  | sessionStarted (width height blocking : Value)
  | sessionStopped
  | scriptBlocked (url : String)
  | pageMessage (text : String)
  | pageError (text : String)
  | pageOpened (url : String) (status : Option Int)
  | handleGone
  | installing
  | installed
  | installRefused (code : Int) (output : String)
  | installTimedOut
  | installNotStarted
  -- extraction
  | rulesLoaded (count : Nat) (path : String)
  | nothingCritical (url : String)
  | extracted (count : Nat) (url : String)

/-- An event as a log shows it. -/
structure LogRecord where
  level : Level
  logger : String
  message : String
  deriving DecidableEq

/-- A value as a whole number in a message; one that is no number is shown as it is. -/
def wholeText (value : Value) : String :=
  match value with
  | .number held =>
    match held.truncate? with
    | some whole => String.ofList (Integer.render whole)
    | none => value.shown
  | value => value.shown

namespace Event

/-- How important an event is. -/
def level : Event → Level
  | installed | extracted _ _ => .info
  | installing | installRefused _ _ | installTimedOut | installNotStarted | nothingCritical _ =>
    .warning
  | _ => .debug

/-- The part of the program that an event comes from. -/
def logger : Event → String
  | keptFixedElement => "foldline.dom"
  | droppedSelector _ _ => "foldline.selector_classifier"
  | droppedRule _ | keptRules _ _ => "foldline.rule_filter"
  | waiting _ | passStarted | passDone => "foldline.render"
  | handleGone => "foldline.playwright_dom"
  | rulesLoaded _ _ | nothingCritical _ | extracted _ _ => "foldline.extractor"
  | _ => "foldline.browser_session"

/-- A description of an event. -/
def message : Event → String
  | keptFixedElement => "Force keeping fixed position element"
  | droppedSelector selector reduced =>
    s!"Dropping invalid selector {Text.quoted selector} (tested as {Text.quoted reduced})"
  | droppedRule type => s!"Dropping unsupported rule type {type.shown}"
  | keptRules kept total => s!"Kept {kept} of {total} top-level rules"
  | waiting delay => s!"Waiting {wholeText (.number delay)}ms for the page to settle"
  | passStarted => "Classification pass started"
  | passDone => "Classification pass done"
  | sessionStarted width height blocking =>
    s!"Browser session started (viewport={wholeText width}x{wholeText height}, " ++
      s!"block_js={blocking.plain})"
  | sessionStopped => "Browser session stopped"
  | scriptBlocked url => s!"Script blocked: {url}"
  | pageMessage text => s!"page: {text}"
  | pageError text => s!"Ignored page error: {text}"
  | pageOpened url status =>
    let shown := match status with
      | some code => String.ofList (Integer.render code)
      | none => "None"
    s!"Page opened: {url} (status={shown})"
  | handleGone => "Element handle already gone"
  | installing => "Chromium not found, running 'playwright install chromium' …"
  | installed => "Chromium installed successfully"
  | installRefused code output =>
    s!"playwright install chromium failed (rc={code}): {output}"
  | installTimedOut => "Chromium install timed out after 300s"
  | installNotStarted => "Chromium auto-install failed"
  | rulesLoaded count path => s!"Loaded {count} top-level rules from {path}"
  | nothingCritical url => s!"No critical rules found for {url}"
  | extracted count url => s!"Extracted {count} critical rules for {url}"

/-- An event as a log shows it. -/
def record (event : Event) : LogRecord := ⟨event.level, event.logger, event.message⟩

end Event

end CriticalCss
