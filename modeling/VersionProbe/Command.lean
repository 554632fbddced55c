/-
# Commands

The commands that the probe can write and the packets they travel in.  Every packet begins with
an indicator of its kind; a command packet goes on with the opcode and the number of its
parameter bytes, which is zero for the commands known here.
-/
import VersionProbe.LittleEndian

namespace VersionProbe

/-- The indicator that begins a command packet. -/
def commandIndicator : UInt8 := 0x01

/-- The indicator that begins an event packet. -/
def eventIndicator : UInt8 := 0x04

/-- The commands that the probe knows how to write. -/
inductive Command
  /-- Ask for the versions of the controller's interfaces. -/
  | readLocalVersion
  /-- Put the controller back into its initial state. -/
  | reset
deriving DecidableEq

namespace Command

/-- The number that names a command, group and command packed into one word. -/
def opcode : Command → UInt16
  | readLocalVersion => 0x1001
  | reset => 0x0C03

/-- The whole packet of a command, which has no parameters. -/
def packet (c : Command) : List UInt8 :=
  [commandIndicator, LittleEndian.low c.opcode, LittleEndian.high c.opcode, 0]

end Command

/-- The frame that the probe sends: the version query. -/
def requestFrame : List UInt8 :=
  Command.readLocalVersion.packet

/-- The version query, byte by byte. -/
theorem requestFrame_eq : requestFrame = [0x01, 0x01, 0x10, 0x00] := by decide

end VersionProbe
