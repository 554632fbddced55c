/-
# The log

The events of a run that are worth a line in the log, each with its level, the part of the program
it comes from, and its wording.
-/
import VersionProbe.Text.Escaped

namespace VersionProbe

/-! ## Levels -/

/-- How important a log entry is, most important first. -/
inductive Level
  | error
  | warn
  | info
  | debug
  | trace
deriving DecidableEq

namespace Level

/-- The level in capitals. -/
def name : Level → String
  | error => "ERROR"
  | warn => "WARN"
  | info => "INFO"
  | debug => "DEBUG"
  | trace => "TRACE"

/-- The amount of detail that a level stands for, from one to five. -/
def detail : Level → Nat
  | error => 1
  | warn => 2
  | info => 3
  | debug => 4
  | trace => 5

end Level

/-! ## Entries -/

/-- What the log can report. -/
inductive LogEntry
  /-- A port was opened. -/
  | opened (port : String) (baud : Nat)
  /-- A whole frame was written. -/
  | wrote (frame : List UInt8)
  /-- One read brought some bytes. -/
  | received (bytes : List UInt8)
  /-- One read found the end of the stream. -/
  | endOfStream (filled : Nat)
  /-- One read brought nothing within its timeout. -/
  | readTimedOut (filled limit : Nat)
  /-- The time for the whole reply was over before another read. -/
  | deadlineReached (filled limit : Nat)
  /-- A port was given back. -/
  | closing (port : String) (sent delivered : Nat)
  /-- The system could not list its ports. -/
  | enumerationFailed (description : String)
  /-- A reply of so many bytes is there. -/
  | replied (count : Nat)
deriving DecidableEq

namespace LogEntry

/-- The level of an entry: opening and closing a port is of interest to everyone, the rest to
someone who looks for a fault. -/
def level : LogEntry → Level
  | opened _ _ => .info
  | closing _ _ _ => .info
  | _ => .debug

/-- The part of the program that an entry comes from. -/
def target : LogEntry → String
  | enumerationFailed _ => "hciprobe_core::protocol::serial"
  | replied _ => "hciprobe"
  | _ => "hciprobe_core::protocol::connection"

/-- The wording of an entry. -/
def message : LogEntry → String
  | opened _ _ => "opened serial port"
  | wrote frame => "wrote " ++ toString frame.length ++ " bytes: " ++ Hex.listing frame
  | received bytes => "read " ++ toString bytes.length ++ " bytes: " ++ Hex.listing bytes
  | endOfStream filled => "end of stream after " ++ toString filled ++ " bytes"
  | readTimedOut filled limit =>
    "read timed out after " ++ toString filled ++ " of " ++ toString limit ++ " bytes"
  | deadlineReached filled limit =>
    "read deadline reached after " ++ toString filled ++ " of " ++ toString limit ++ " bytes"
  | closing _ _ _ => "closing serial port"
  | enumerationFailed description => "serial port enumeration failed: " ++ description
  | replied count => "received " ++ toString count ++ " bytes"

/-- The named values that go with the wording. -/
def fields : LogEntry → List (String × String)
  | opened port baud => [("port", port), ("baud", toString baud)]
  | closing port sent delivered =>
    [("port", port), ("tx", toString sent), ("rx", toString delivered)]
  | _ => []

/-- The names of all that an entry holds, its wording included. -/
def fieldNames (e : LogEntry) : List String :=
  "message" :: e.fields.map Prod.fst

/-- The named values as they follow the wording, each after a blank. -/
def fieldText (e : LogEntry) : String :=
  String.join (e.fields.map fun field => " " ++ field.1 ++ "=" ++ field.2)

/-- An entry with its level. -/
def text (e : LogEntry) : String :=
  e.level.name ++ " " ++ e.message ++ e.fieldText

/-- An entry as a line on the console: the level right-aligned in five columns, the target, the
wording in escaped form, and the named values as they are. -/
def consoleLine (e : LogEntry) : String :=
  String.ofList (List.replicate (5 - e.level.name.length) ' ') ++ e.level.name ++ " " ++ e.target
    ++ ": " ++ Text.escape e.message ++ e.fieldText ++ "\n"

/-- The bytes that an entry says were read. -/
def receivedBytes : LogEntry → List UInt8
  | received bytes => bytes
  | _ => []

end LogEntry

end VersionProbe
