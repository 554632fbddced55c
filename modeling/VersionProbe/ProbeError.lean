/-
# Errors of the probe

A probe fails in one of four ways: there is no such port, the port cannot be opened, the
controller's reply says something unexpected, or the open port fails.  Each holds its cause; the
wording is in the `message` functions and nowhere else.
-/
import VersionProbe.Hex
import VersionProbe.SerialError

namespace VersionProbe

/-! ## Causes -/

/-- Why a port could not be opened, other than that there is none. -/
inductive ConnectionFailure
  /-- No port was named. -/
  | noPort
  /-- The serial layer refused to open the port. -/
  | refused (port description : String)
  /-- A reason in the caller's own words. -/
  | stated (text : String)
deriving DecidableEq

/-- The reason in words. -/
def ConnectionFailure.message : ConnectionFailure → String
  | noPort => "no serial port specified"
  | refused port description => port ++ ": " ++ description
  | stated text => text

/-- What is wrong with a reply. -/
inductive ReplyFault
  /-- There is no byte at all. -/
  | emptyReply
  /-- The first byte announces something other than an event. -/
  | notAnEvent (indicator : UInt8)
  /-- The reply ends within the three bytes of the header. -/
  | truncatedHeader
  /-- Fewer parameter bytes arrived than the header declares. -/
  | truncatedParameters (declared received : Nat)
  /-- A Command Complete that declares fewer than four bytes. -/
  | shortCommandComplete
  /-- A Command Status that declares fewer than four bytes. -/
  | shortCommandStatus
  /-- The completed command is not the one that was sent. -/
  | otherCommand (opcode expected : UInt16)
  /-- The controller reports that the command failed. -/
  | failedStatus (status : UInt8)
  /-- Too few bytes for the version information. -/
  | shortVersion (needed received : Nat)
  /-- The controller put the command off instead of answering it. -/
  | commandStatus (status : UInt8) (opcode : UInt16)
  /-- An event that answers no command. -/
  | unexpectedEvent (code : UInt8)
  /-- A reason in the caller's own words. -/
  | stated (text : String)
deriving DecidableEq

/-- The reason in words. -/
def ReplyFault.message : ReplyFault → String
  | emptyReply => "empty reply"
  | notAnEvent indicator => "expected event packet 0x04, got 0x" ++ Hex.byte indicator
  | truncatedHeader => "truncated event header"
  | truncatedParameters declared received =>
    "event declares " ++ toString declared ++ " parameter bytes, only " ++ toString received
      ++ " received"
  | shortCommandComplete => "Command Complete shorter than 4 bytes"
  | shortCommandStatus => "Command Status shorter than 4 bytes"
  | otherCommand opcode expected =>
    "Command Complete for opcode 0x" ++ Hex.word opcode ++ ", expected 0x" ++ Hex.word expected
  | failedStatus status => "controller returned status 0x" ++ Hex.byte status
  | shortVersion needed received =>
    "version information needs " ++ toString needed ++ " bytes, got " ++ toString received
  | commandStatus status opcode =>
    "Command Status 0x" ++ Hex.byte status ++ " for opcode 0x" ++ Hex.word opcode
  | unexpectedEvent code => "unexpected event 0x" ++ Hex.byte code
  | stated text => text

/-! ## Errors -/

/-- How a probe fails. -/
inductive ProbeError
  | portNotFound (port : String)
  | connectionFailed (cause : ConnectionFailure)
  | invalidReply (cause : ReplyFault)
  | io (error : IoError)
deriving DecidableEq

namespace ProbeError

/-- The error in words. -/
def message : ProbeError → String
  | portNotFound port => "Port not found: " ++ port
  | connectionFailed cause => "Connection failed: " ++ cause.message
  | invalidReply cause => "Invalid response from controller: " ++ cause.message
  | io error => "I/O error: " ++ error.text

/-- The texts of the errors that this one was caused by, nearest first. -/
def sources : ProbeError → List String
  | io error => [error.text]
  | _ => []

/-- The kind of the I/O error, where there is one. -/
def ioKind? : ProbeError → Option IoKind
  | io error => some error.kind
  | _ => none

/-- Whether the error arose while the port was being acquired, before any byte was sent. -/
def isConnectionError : ProbeError → Bool
  | portNotFound _ => true
  | connectionFailed _ => true
  | _ => false

end ProbeError

end VersionProbe
