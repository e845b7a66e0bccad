import CriticalCss.Fault
import CriticalCss.Text.Search
import CriticalCss.Text.Word

/-!
# Diagnostics

A fault is explained to a user by what went wrong and a hint at what to do.  The browser's codes for
failures of the network are put into words.
-/

namespace CriticalCss

/-- The kinds of failures that users are told of. -/
inductive FailureKind where
  | input
  | browserUnavailable
  | dnsResolutionFailed
  | pageTimeout
  | connectionFailed
  | tlsError
  | navigationFailed
  | output
  | internal
  deriving DecidableEq

namespace FailureKind

/-- All kinds of failures. -/
def all : List FailureKind :=
  [input, browserUnavailable, dnsResolutionFailed, pageTimeout, connectionFailed, tlsError,
    navigationFailed, output, internal]

/-- The name of a kind. -/
def name : FailureKind → String
  | input => "input"
  | browserUnavailable => "browser-unavailable"
  | dnsResolutionFailed => "dns-resolution-failed"
  | pageTimeout => "page-timeout"
  | connectionFailed => "connection-failed"
  | tlsError => "tls-error"
  | navigationFailed => "navigation-failed"
  | output => "output"
  | internal => "internal"

/-- The kind whose name is a value. -/
def ofValue (value : Value) : Except Fault FailureKind :=
  match all.find? fun kind => value.isText kind.name with
  | some kind => .ok kind
  | none => .error (.naming value (.unknownKind value))

/-- What to do about a failure, where something can be done. -/
def hint : FailureKind → Option String
  | input => some "Check the AST file and the JSON passed to --force-include/--headers."
  | browserUnavailable => some "Ensure Chromium is installed: playwright install chromium"
  | dnsResolutionFailed => some "Check the URL spelling and ensure the domain exists."
  | pageTimeout => some "The page took too long to load. Try again or raise --timeout-ms."
  | connectionFailed => some "Check that the site is reachable from this machine."
  | tlsError => some "The site's certificate was rejected."
  | navigationFailed | output | internal => none

end FailureKind

namespace NetworkError

/-- What stands before the code of a network failure. -/
def codeMark : List Char := "net::ERR_".toList

/-- The first code of a network failure in a message. -/
def code? : List Char → Option (List Char)
  | [] => none
  | char :: rest =>
    if codeMark.isPrefixOf (char :: rest) then
      match ((char :: rest).drop codeMark.length).takeWhile Text.isWord with
      | [] => code? rest
      | code => some code
    else code? rest

/-- Whether a character may stand in the name of a host. -/
def isHostChar (char : Char) : Bool :=
  char != '/' && char != ':' && char != '\x27' && !Text.isBlank char

/-- What stands behind the scheme of an address at the start of a text. -/
def afterScheme? (text : List Char) : Option (List Char) :=
  (["https://".toList, "http://".toList].find? (·.isPrefixOf text)).map fun scheme =>
    text.drop scheme.length

/-- The first host named by an address in a message. -/
def host? : List Char → Option (List Char)
  | [] => none
  | char :: rest =>
    match afterScheme? (char :: rest) with
    | none => host? rest
    | some behind =>
      match behind.takeWhile isHostChar with
      | [] => host? rest
      | host => some host

/-- The codes of failed connections. -/
def connectionCodes : List String :=
  ["CONNECTION_REFUSED", "CONNECTION_CLOSED", "CONNECTION_RESET", "EMPTY_RESPONSE",
    "ADDRESS_UNREACHABLE"]

/-- A description, with the host if it is known. -/
def withHost (description preposition : String) (host : Option (List Char)) : String :=
  match host with
  | none => description
  | some host => s!"{description}{preposition} '{String.ofList host}'"

/-- The kind and the description of a network failure, by its code. -/
def describe (code : List Char) (host : Option (List Char)) : FailureKind × String :=
  let name := String.ofList code
  if name = "NAME_NOT_RESOLVED" then
    (.dnsResolutionFailed, withHost "Could not resolve domain name" "" host)
  else if name = "CONNECTION_TIMED_OUT" ∨ name = "TIMED_OUT" then
    (.pageTimeout, withHost "Connection timed out" " to" host)
  else if connectionCodes.contains name then
    (.connectionFailed, withHost "Connection failed" " to" host)
  else if Text.occursIn "CERT".toList code || Text.occursIn "SSL".toList code then
    (.tlsError, withHost "SSL/TLS error" " for" host)
  else (.navigationFailed, s!"Navigation failed (net::ERR_{name})")

/-- The kind and the description of the network failure that a message tells of, if it does. -/
def classify (message : String) : Option (FailureKind × String) :=
  (code? message.toList).map fun code => describe code (host? message.toList)

end NetworkError

/-- What a user is told about a failure. -/
structure Diagnostic where
  kind : FailureKind
  detail : String
  deriving DecidableEq

namespace Diagnostic

/-- The greatest length of a detail that is shown in full. -/
def detailLimit : Nat := 300

/-- A detail cut to the limit. -/
def shorten (detail : String) : String :=
  let chars := detail.toList
  if detailLimit < chars.length then String.ofList (chars.take detailLimit) ++ "..." else detail

/-- The lines shown on a command line. -/
def lines (diagnostic : Diagnostic) : List String :=
  s!"Error: {shorten diagnostic.detail}" ::
    (diagnostic.kind.hint.toList.map fun hint => s!"Hint: {hint}")

/-- The text shown on a command line. -/
def text (diagnostic : Diagnostic) : String := "\n".intercalate diagnostic.lines

/-- The diagnostic of an address that could not be opened. -/
def ofNavigation (url reason : String) (fault : Fault) : Diagnostic :=
  match NetworkError.classify s!"{reason} at {url}" with
  | some (kind, description) => ⟨kind, s!"{description} (opening '{url}')"⟩
  | none =>
    if Text.holds reason "timeout" then ⟨.pageTimeout, fault.message⟩
    else ⟨.navigationFailed, fault.message⟩

/-- The diagnostic of a fault. -/
def ofFault (fault : Fault) : Diagnostic :=
  match fault with
  | .navigationFailed url reason _ => ofNavigation url reason fault
  | fault =>
    match fault.family with
    | .input => ⟨.input, fault.message⟩
    | .browser => ⟨.browserUnavailable, fault.message⟩
    | .output => ⟨.output, fault.message⟩
    | .other label => ⟨.internal, s!"{label}: {fault.message}"⟩

end Diagnostic

end CriticalCss
