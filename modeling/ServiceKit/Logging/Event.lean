import ServiceKit.Json.Basic
import ServiceKit.Logging.Level

namespace ServiceKit

/-- Something worth a line: where it comes from, and named values. -/
structure LogEvent where
  level : LogLevel
  target : String
  message : String
  fields : List (String × Json)
deriving Repr

namespace LogEvent

/-- The names of the values; the message is one of them. -/
def fieldNames (e : LogEvent) : List String :=
  "message" :: e.fields.map Prod.fst

/-- The values and the message as an object. -/
def document (e : LogEvent) : Json :=
  Json.ofFields (("message", .str e.message) :: e.fields)

/-- What a logger reports of its own start. -/
def started (name : String) (level : LogLevel) (format : LogFormat) : LogEvent :=
  ⟨.debug, "keel_logger", "Logger initialized",
    [("logger", .str name), ("level", .str level.text), ("format", .str format.text)]⟩

/-- What a logger with files reports at its end. -/
def flushing (name : String) : LogEvent :=
  ⟨.info, "keel_logger", "Flushing log files", [("logger", .str name)]⟩

end LogEvent

end ServiceKit
