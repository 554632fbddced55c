/-
# Version information

What a controller says about itself in answer to the version query, the vendor that its
manufacturer number stands for, and the two forms in which the answer is shown.
-/
import VersionProbe.Event
import VersionProbe.Json

namespace VersionProbe

/-! ## Vendors -/

/-- The maker of a controller, by its assigned company number. -/
inductive Vendor
  | texasInstruments
  | stMicroelectronics
  /-- A company number that the probe has no name for. -/
  | unknown (id : UInt16)
deriving DecidableEq

namespace Vendor

/-- The vendor that a company number stands for. -/
def ofId (id : UInt16) : Vendor :=
  if id = 0x000D then texasInstruments
  else if id = 0x0030 then stMicroelectronics
  else unknown id

/-- The vendor in words. -/
def display : Vendor → String
  | texasInstruments => "Texas Instruments"
  | stMicroelectronics => "STMicroelectronics"
  | unknown id => "unknown (0x" ++ Hex.word id ++ ")"

/-- The vendor as JSON: a name, or the number in an object. -/
def toJson : Vendor → Json
  | texasInstruments => .text "TexasInstruments"
  | stMicroelectronics => .text "StMicroelectronics"
  | unknown id => .object [("Unknown", .number id.toNat)]

end Vendor

/-! ## Versions -/

/-- The version information of a controller: version and revision of the host interface, version
and subversion of the link manager, and the number of the manufacturer. -/
structure LocalVersion where
  hciVersion : UInt8
  hciRevision : UInt16
  lmpVersion : UInt8
  manufacturer : UInt16
  lmpSubversion : UInt16
deriving DecidableEq

namespace LocalVersion

/-- The number of bytes that hold the version information. -/
def byteCount : Nat := 8

/-- The vendor that the manufacturer number stands for. -/
def vendor (v : LocalVersion) : Vendor :=
  Vendor.ofId v.manufacturer

/-- The version information in the bytes that follow the status; bytes past the eighth mean
nothing. -/
def ofReturnParams : List UInt8 → Except ProbeError LocalVersion
  | hciVersion :: r₀ :: r₁ :: lmpVersion :: m₀ :: m₁ :: s₀ :: s₁ :: _ =>
    .ok
      { hciVersion
        hciRevision := LittleEndian.word r₀ r₁
        lmpVersion
        manufacturer := LittleEndian.word m₀ m₁
        lmpSubversion := LittleEndian.word s₀ s₁ }
  | params => .error (.invalidReply (.shortVersion byteCount params.length))

/-- The eight bytes that version information is sent as. -/
def returnParams (v : LocalVersion) : List UInt8 :=
  [v.hciVersion, LittleEndian.low v.hciRevision, LittleEndian.high v.hciRevision, v.lmpVersion,
    LittleEndian.low v.manufacturer, LittleEndian.high v.manufacturer,
    LittleEndian.low v.lmpSubversion, LittleEndian.high v.lmpSubversion]

/-- Version information reads back from its bytes, whatever follows them. -/
theorem ofReturnParams_returnParams_append (v : LocalVersion) (rest : List UInt8) :
    ofReturnParams (v.returnParams ++ rest) = .ok v := by
  simp [returnParams, ofReturnParams, LittleEndian.word_low_high]

/-- The version information in an event: the command that completed has to be the version query,
then its status has to be zero, then the bytes have to suffice. -/
def ofEvent : Event → Except ProbeError LocalVersion
  | .commandComplete _ opcode status returnParams =>
    if opcode ≠ Command.readLocalVersion.opcode then
      .error (.invalidReply (.otherCommand opcode Command.readLocalVersion.opcode))
    else if status ≠ 0 then
      .error (.invalidReply (.failedStatus status))
    else
      ofReturnParams returnParams
  | .commandStatus status _ opcode => .error (.invalidReply (.commandStatus status opcode))
  | .other code _ => .error (.invalidReply (.unexpectedEvent code))

/-- The version information in a raw reply to the version query. -/
def decode (reply : List UInt8) : Except ProbeError LocalVersion :=
  (Event.parse reply).bind ofEvent

/-! ## Display -/

/-- The line on the host interface. -/
def hciLine (v : LocalVersion) : String :=
  "HCI version:     0x" ++ Hex.byte v.hciVersion ++ " rev 0x" ++ Hex.word v.hciRevision

/-- The line on the link manager. -/
def lmpLine (v : LocalVersion) : String :=
  "LMP version:     0x" ++ Hex.byte v.lmpVersion ++ " sub 0x" ++ Hex.word v.lmpSubversion

/-- The line on the manufacturer. -/
def manufacturerLine (v : LocalVersion) : String :=
  "Manufacturer id: 0x" ++ Hex.word v.manufacturer ++ " (" ++ v.vendor.display ++ ")"

/-- The three lines that describe a controller, without a final line end. -/
def display (v : LocalVersion) : String :=
  v.hciLine ++ "\n" ++ v.lmpLine ++ "\n" ++ v.manufacturerLine

/-- The version information as a JSON object. -/
def toJson (v : LocalVersion) : Json :=
  .object
    [("hci_version", .number v.hciVersion.toNat),
      ("hci_revision", .number v.hciRevision.toNat),
      ("lmp_version", .number v.lmpVersion.toNat),
      ("manufacturer_id", .number v.manufacturer.toNat),
      ("lmp_subversion", .number v.lmpSubversion.toNat),
      ("vendor", v.vendor.toJson)]

end LocalVersion

end VersionProbe
