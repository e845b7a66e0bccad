import CriticalCss.Event
import CriticalCss.Fault

/-!
# Logs

A log shows records from some level on, each on a line of its own: for people, in columns, or for
programs, as a JSON object.
-/

namespace CriticalCss

/-- How a log is shown. -/
structure Log where
  json : Bool
  threshold : Level
  deriving DecidableEq

namespace Log

/-- A log that shows everything, or warnings and worse. -/
def configure (json debug : Bool) : Log := ⟨json, if debug then .debug else .warning⟩

/-- A log with settings by name; what is not set counts as false. -/
def ofFields (fields : Fields) : Except Fault Log :=
  match fields.find? fun field => !(["json_output", "debug"].contains field.1) with
  | some (keyword, _) => .error (.unknownKeyword .log keyword)
  | none =>
    let isSet (name : String) : Bool := (fields.get? name).any Value.isTruthy
    .ok (configure (isSet "json_output") (isSet "debug"))

/-- Whether a log shows records of a level. -/
def shows (log : Log) (level : Level) : Bool := decide (log.threshold.rank ≤ level.rank)

/-- A text filled up with spaces. -/
def pad (width : Nat) (text : String) : String :=
  text ++ String.ofList (List.replicate (width - text.length) ' ')

/-- A record in columns. -/
def columns (stamp : String) (record : LogRecord) : String :=
  s!"{stamp} [{pad 9 record.level.name.toLower}] {pad 30 record.message} [{record.logger}]"

/-- A record as an object. -/
def fields (stamp : String) (record : LogRecord) : List (String × String) :=
  [("event", record.message), ("logger", record.logger), ("level", record.level.name.toLower),
    ("timestamp", stamp)]

/-- A record as a JSON object in ASCII. -/
def jsonLine (stamp : String) (record : LogRecord) : String :=
  let field (entry : String × String) : String :=
    String.ofList (Json.writeText true entry.1 ++ ':' :: ' ' :: Json.writeText true entry.2)
  "\x7b" ++ ", ".intercalate ((fields stamp record).map field) ++ "\x7d"

/-- What a log shows of a record, at a time given by its text. -/
def write (log : Log) (stamp : String) (record : LogRecord) : String :=
  if log.shows record.level then
    (if log.json then jsonLine stamp record else columns stamp record) ++ "\n"
  else ""

end Log

end CriticalCss
