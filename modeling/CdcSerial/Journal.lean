/-!
# Journal

Messages that tell an operator what a connection does. They have no influence on what it does.
-/

namespace CdcSerial

/-- How important a message is. -/
inductive Level where
  | trace
  | debug
  | info
  | warn
deriving DecidableEq

/-- A message of the journal. -/
structure Message where
  level : Level
  text : String
deriving DecidableEq

namespace Message

/-- A message with its level in front. -/
def line (message : Message) : String :=
  let level := match message.level with
    | .trace => "TRACE"
    | .debug => "DEBUG"
    | .info => "INFO"
    | .warn => "WARN"
  level ++ " " ++ message.text

end Message

end CdcSerial
