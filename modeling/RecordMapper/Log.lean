/-
This file holds the entries that the library writes to a log: a level and a message.
-/

namespace RecordMapper

/-- How much a log entry matters. -/
inductive LogLevel
  | debug
  | info
  | warn
  deriving DecidableEq

/-- The word for a level. -/
def LogLevel.word : LogLevel → String
  | .debug => "DEBUG"
  | .info => "INFO"
  | .warn => "WARN"

/-- One entry of the log. -/
structure LogEntry where
  level : LogLevel
  message : String
  deriving DecidableEq

end RecordMapper
