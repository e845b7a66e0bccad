import CriticalCss.Json.Reader
import CriticalCss.Json.Writer
import CriticalCss.Stylesheet.Violation
import CriticalCss.Text.Utf8
import CriticalCss.Value.Order
import CriticalCss.Value.Shown

/-!
# Faults

Everything that can end an operation, by its cause.  A fault has a label, which is how reports name
its kind, and a message.
-/

namespace CriticalCss

/-- The records that are filled with settings or details, some of them by name. -/
inductive Record where
  | options
  | extraction
  | browser
  | log
  | navigationFault
  | selectorFault
  | browserFault
  deriving DecidableEq

/-- The name of what fills a record, in messages. -/
def Record.name : Record → String
  | options => "ClassificationOptions.build()"
  | extraction => "ExtractionConfig.__init__()"
  | browser => "BrowserConfig.__init__()"
  | log => "configure()"
  | navigationFault => "NavigationError.__init__()"
  | selectorFault => "InvalidSelectorError.__init__()"
  | browserFault => "Error.__init__()"

/-- The families of faults that reports tell apart; any other fault is known by its label. -/
inductive FaultClass where
  | input
  | browser
  | output
  | other (label : String)
  deriving DecidableEq

/-- The cause that ends an operation. -/
inductive Fault where
  -- input of an extraction
  | missingUrl
  | invalidOptions (cause : Fault)
  | widthNotPositive (width : Number)
  | viewportNotPositive (width height : Value)
  | malformedRules (violations : List Stylesheet.Violation)
  | malformedStylesheet (violations : List Stylesheet.Violation)
  | unreadableFile (path reason : String)
  | fileNotJson (path : String) (problem : Json.Problem) (line : Nat)
  | flagNotJson (flag : String) (problem : Json.Problem)
  | flagOfWrongKind (flag : String) (expected found : Kind)
  | settingNotWhole (name found : String)
  -- browser, page and output
  | launchFailed (reason : String)
  | installFailed
  | navigationFailed (url reason resource : String)
  | invalidSelector (selector : String)
  | unwritable (reason : Json.Unwritable)
  | rulesNotIterable (kind : Kind)
  | browserCall (report : String)
  | documentCall (report : String)
  | noPage
  | noContext
  | cancelled
  | interrupted
  /-- A wait without end has been given up. -/
  | unending
  -- values that do not fit
  | notIterable (kind : Kind)
  | unordered (relation : String) (left right : Kind)
  | noMember (kind : Kind) (member : String)
  | unhashable (kind : Kind)
  | notSearchable (kind : Kind)
  | startOfBytes
  | notANumber (kind : Kind)
  | unknownKeyword (record : Record) (keyword : String)
  | repeatedKeyword (record : Record) (keyword : String)
  | noKeywords (label : String)
  | tooManyDetails (record : Record) (wanted given named : Nat)
  | missingDetails (record : Record) (names : List String)
  | badEntry (item : Value)
  | badPattern (source : String) (error : Pattern.Error)
  | heightNotPositive (height : Number)
  | delayNegative (delay : Number)
  | unreadableReal (value : Value)
  | unreadableWhole (text : String)
  | tooManyDigits (digits : Nat)
  /-- A message is to show a number that has too many digits. -/
  | numberTooLong
  | wholeTooLarge
  | pairLength (index length : Nat)
  | notAPair (index : Nat)
  | nullInPath
  | notAPath (kind : Kind)
  | undecodable (error : Text.DecodeError)
  | unknownKind (value : Value)
  | emptyReport
  -- faults handed in from outside
  | reported (family : FaultClass) (details : List Value)

namespace Fault

/-- A fault whose message shows a value.  If a number in it is too long, there is no message, and
this is the fault. -/
def naming (value : Value) (fault : Fault) : Fault :=
  if value.hasLongNumber then .numberTooLong else fault

/-- The family of a fault. -/
def family : Fault → FaultClass
  | missingUrl | invalidOptions _ | widthNotPositive _ | viewportNotPositive _ _
  | malformedRules _ | malformedStylesheet _ | unreadableFile _ _ | fileNotJson _ _ _
  | flagNotJson _ _ | flagOfWrongKind _ _ _ | settingNotWhole _ _ => .input
  | launchFailed _ | installFailed | navigationFailed _ _ _ => .browser
  | unwritable .indentTooLarge => .other "OverflowError"
  | unwritable .indentOutOfMemory => .other "MemoryError"
  | unwritable _ | rulesNotIterable _ => .output
  | invalidSelector _ => .other "InvalidSelectorError"
  | browserCall _ => .other "Error"
  | documentCall _ | noPage | noContext | unending => .other "RuntimeError"
  | cancelled => .other "CancelledError"
  | interrupted => .other "KeyboardInterrupt"
  | notIterable _ | unordered _ _ _ | unhashable _ | notSearchable _ | startOfBytes
  | notANumber _ | unknownKeyword _ _ | repeatedKeyword _ _ | noKeywords _
  | tooManyDetails _ _ _ _ | missingDetails _ _ | notAPair _ | notAPath _ => .other "TypeError"
  | noMember _ _ => .other "AttributeError"
  | badPattern _ ⟨.countTooLarge, _⟩ | badPattern _ ⟨.codeTooLarge, _⟩ => .other "OverflowError"
  | badPattern _ ⟨.tooFarBehind, _⟩ => .other "RuntimeError"
  | badPattern _ ⟨.conflictingAlphabets, _⟩ | badPattern _ ⟨.countTooLong _, _⟩ =>
    .other "ValueError"
  | badPattern _ _ => .other "error"
  | badEntry _ | heightNotPositive _ | delayNegative _ | unreadableReal _ | unreadableWhole _
  | tooManyDigits _ | numberTooLong | pairLength _ _ | nullInPath | unknownKind _ =>
    .other "ValueError"
  | wholeTooLarge => .other "OverflowError"
  | undecodable _ => .other "UnicodeDecodeError"
  | emptyReport => .other "IndexError"
  | reported family _ => family

/-- The label of a fault in reports. -/
def label (fault : Fault) : String :=
  match fault, fault.family with
  | navigationFailed _ _ _, _ => "NavigationError"
  | _, .input => "InputError"
  | _, .browser => "BrowserError"
  | _, .output => "OutputError"
  | _, .other label => label

/-- The bytes at fault in a text that is not UTF-8. -/
def undecodableBytes (bytes : List Nat) (position : Nat) : String :=
  match bytes with
  | [byte] => s!"byte 0x{String.ofList (Text.hexDigits 2 byte)} in position {position}"
  | bytes => s!"bytes in position {position}-{position + bytes.length - 1}"

/-- A count with the noun that it counts. -/
def counted (count : Nat) (noun : String) : String :=
  if count = 1 then s!"1 {noun}" else s!"{count} {noun}s"

/-- What is said about too many details in order: how many there are besides those given by name. -/
def givenDetails (given named : Nat) : String :=
  if named = 0 then toString given ++ (if given = 1 then " was" else " were")
  else counted given "positional argument" ++ " (and " ++
    counted named "keyword-only argument" ++ ") were"

/-- Names in quotes, the last two with a conjunction between them. -/
def quotedNames (names : List String) : String :=
  match names.map Text.quoted with
  | [] => ""
  | [name] => name
  | [first, second] => s!"{first} and {second}"
  | names => ", ".intercalate names.dropLast ++ ", and " ++ names.getLastD ""

/-- What is said about a fault handed in from outside; a missing key stands in quotes. -/
def detailsText (family : FaultClass) : List Value → String
  | [] => ""
  | [detail] => if family = .other "KeyError" then detail.shown else detail.plain
  | details => Value.shownTuple details

/-- The first line of a report on violations. -/
def violationCount (subject : String) (violations : List Stylesheet.Violation) : String :=
  s!"Malformed {subject}: {violations.length} validation error(s)"

/-- A description of the fault. -/
def message : Fault → String
  | missingUrl => "A URL is required"
  | invalidOptions cause => s!"Invalid extraction options: {cause.message}"
  | widthNotPositive width => s!"Viewport width must be positive, got {width.render}"
  | viewportNotPositive width height =>
    s!"Viewport must be positive, got {width.plain}x{height.plain}"
  | malformedRules violations => violationCount "rule list" violations
  | malformedStylesheet violations => violationCount "stylesheet AST" violations
  | unreadableFile path reason => s!"Cannot read AST file '{path}': {reason}"
  | fileNotJson path problem line =>
    s!"AST file '{path}' is not valid JSON: {problem.message} (line {line})"
  | flagNotJson flag problem => s!"{flag} is not valid JSON: {problem.message}"
  | flagOfWrongKind flag expected found =>
    s!"{flag} must be a JSON {expected.name}, got {found.name}"
  | settingNotWhole name found => s!"{name} must be an integer, got {Text.quoted found}"
  | launchFailed reason => s!"Chromium failed to launch: {reason}"
  | installFailed =>
    "Chromium is not installed and auto-install failed. Please run: playwright install chromium"
  | navigationFailed url reason resource =>
    let failing := if resource.isEmpty then url else resource
    s!"Error opening url '{failing}': {reason}"
  | invalidSelector selector => s!"Invalid selector: {Text.quoted selector}"
  | unwritable .indentTooLarge => Json.Unwritable.indentTooLarge.message
  | unwritable .indentOutOfMemory => Json.Unwritable.indentOutOfMemory.message
  | unwritable reason => s!"Cannot serialize critical rules: {reason.message}"
  | rulesNotIterable kind =>
    s!"Cannot serialize critical rules: '{kind.name}' object is not iterable"
  | browserCall report => report
  | documentCall report => report
  | noPage => "Browser session not started. Use async with or call start()."
  | noContext => "Browser session not started."
  | cancelled => ""
  | interrupted => ""
  | unending => "The page never settles."
  | notIterable kind => s!"'{kind.name}' object is not iterable"
  | unordered relation left right =>
    s!"'{relation}' not supported between instances of '{left.name}' and '{right.name}'"
  | noMember kind member => s!"'{kind.name}' object has no attribute '{member}'"
  | unhashable kind => s!"unhashable type: '{kind.name}'"
  | notSearchable (.foreign .byteString) => "cannot use a string pattern on a bytes-like object"
  | notSearchable kind => s!"expected string or bytes-like object, got '{kind.name}'"
  | startOfBytes => "startswith first arg must be bytes or a tuple of bytes, not str"
  | notANumber kind => s!"float() argument must be a string or a real number, not '{kind.name}'"
  | unknownKeyword record keyword =>
    s!"{record.name} got an unexpected keyword argument '{keyword}'"
  | repeatedKeyword record keyword =>
    s!"{record.name} got multiple values for argument '{keyword}'"
  | noKeywords label => s!"{label}() takes no keyword arguments"
  | tooManyDetails record wanted given named =>
    s!"{record.name} takes " ++ counted wanted "positional argument" ++
      s!" but {givenDetails given named} given"
  | missingDetails record names =>
    s!"{record.name} missing " ++ counted names.length "required positional argument" ++
      s!": {quotedNames names}"
  | badEntry item =>
    s!"force-include entry must be a string or \x7b'value': str\x7d, got {item.shown}"
  | badPattern source error => error.message source
  | heightNotPositive height => s!"viewport_height must be positive, got {height.render}"
  | delayNegative delay => s!"settle_delay_ms must not be negative, got {delay.render}"
  | unreadableReal value => s!"could not convert string to float: {value.shown}"
  | unreadableWhole text => s!"invalid literal for int() with base 10: {Text.quoted text}"
  | tooManyDigits digits => Integer.tooLongMessage digits
  | numberTooLong => Integer.unwritableMessage
  | wholeTooLarge => "int too large to convert to float"
  | pairLength index length =>
    s!"dictionary update sequence element #{index} has length {length}; 2 is required"
  | notAPair index => s!"cannot convert dictionary update sequence element #{index} to a sequence"
  | nullInPath => "embedded null byte"
  | notAPath kind => s!"expected str, bytes or os.PathLike object, not {kind.name}"
  | undecodable error =>
    s!"'utf-8' codec can't decode {undecodableBytes error.bytes error.position}: " ++
      error.how.message
  | unknownKind value => s!"{value.shown} is not a valid FailureKind"
  | emptyReport => "list index out of range"
  | reported family details => detailsText family details

/-- The violations behind a fault. -/
def violations : Fault → List Stylesheet.Violation
  | malformedRules violations | malformedStylesheet violations => violations
  | _ => []

end Fault

end CriticalCss
