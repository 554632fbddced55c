/-
# Ports

Serial ports as the system enumerates them, what the probe keeps of each, and the two forms in
which a port is shown.
-/
import VersionProbe.Json

namespace VersionProbe

/-! ## Types -/

/-- What a USB device says about itself. -/
structure UsbDevice where
  vendorId : UInt16
  productId : UInt16
  manufacturer : Option String
  product : Option String
deriving DecidableEq

/-- How a serial port is attached to the machine. -/
inductive Bus
  | usb (device : UsbDevice)
  | pci
  | bluetooth
  | unknown
deriving DecidableEq

/-- A serial port as the system enumerates it. -/
structure SerialPort where
  name : String
  bus : Bus
deriving DecidableEq

/-- A port in the listing: its name, and the USB device behind it if there is one. -/
structure Port where
  name : String
  usb : Option UsbDevice
deriving DecidableEq

namespace Port

/-- A port of which nothing but the name is known. -/
def bare (name : String) : Port :=
  ⟨name, none⟩

/-- What the listing keeps of an enumerated port. -/
def ofSerial (p : SerialPort) : Port :=
  match p.bus with
  | .usb device => ⟨p.name, some device⟩
  | _ => bare p.name

/-- The vendor number of the USB device. -/
def vendorId (p : Port) : Option UInt16 := p.usb.map UsbDevice.vendorId

/-- The product number of the USB device. -/
def productId (p : Port) : Option UInt16 := p.usb.map UsbDevice.productId

/-- The manufacturer that the USB device names. -/
def manufacturer (p : Port) : Option String := p.usb.bind UsbDevice.manufacturer

/-- The product that the USB device names. -/
def product (p : Port) : Option String := p.usb.bind UsbDevice.product

/-- Both numbers of the USB device in brackets, after a blank. -/
def idText (p : Port) : String :=
  match p.usb with
  | some device =>
    " [" ++ Hex.word device.vendorId ++ ":" ++ Hex.word device.productId ++ "]"
  | none => ""

/-- The product of the USB device, after a blank. -/
def productText (p : Port) : String :=
  match p.product with
  | some product => " " ++ product
  | none => ""

/-- The port as the plain listing shows it. -/
def display (p : Port) : String :=
  p.name ++ p.idText ++ p.productText

/-- The port as a JSON object. -/
def toJson (p : Port) : Json :=
  .object
    [("name", .text p.name),
      ("vid", .ofOption (fun id => .number id.toNat) p.vendorId),
      ("pid", .ofOption (fun id => .number id.toNat) p.productId),
      ("manufacturer", .ofOption .text p.manufacturer),
      ("product", .ofOption .text p.product)]

/-- A port keeps the name under which it was enumerated. -/
@[simp] theorem name_ofSerial (p : SerialPort) : (ofSerial p).name = p.name := by
  rw [ofSerial]
  split <;> rfl

end Port

end VersionProbe
