/-
# The listing of ports

The ports that the system enumerates, completed by the device files that an enumeration may miss,
each name once, in the order of `SortKey`.

* `arrange_perm` : arranging ports changes nothing but their order.
-/
import VersionProbe.Log
import VersionProbe.PortOrder
import VersionProbe.SerialError

namespace VersionProbe

/-! ## Entries -/

/-- What a machine has to say about its ports: the enumeration of the serial layer, and the names
in the device directory as bytes, or nothing if the directory cannot be read. -/
structure Inventory where
  enumeration : Except SerialError (List SerialPort)
  directory : Option (List ByteArray)

/-- The ports in a list, each name once: of several with one name the first is kept. -/
def distinctPorts : List Port → List Port
  | [] => []
  | p :: ps => p :: (distinctPorts ps).filter fun q => q.name ≠ p.name

/-- The port that a name in the device directory stands for, if it is text and looks like that of a
serial device. -/
def devicePort? (fileName : ByteArray) : Option Port :=
  match String.fromUTF8? fileName with
  | none => none
  | some text =>
    match PortGroup.ofBase text.toList with
    | (.rest, _) => none
    | _ => some (Port.bare ("/dev/" ++ text))

namespace Inventory

/-- The ports of the enumeration; one that fails has none. -/
def enumerated (i : Inventory) : List Port :=
  match i.enumeration with
  | .ok ports => ports.map Port.ofSerial
  | .error _ => []

/-- The ports of the device directory; one that cannot be read has none. -/
def deviceFiles (i : Inventory) : List Port :=
  (i.directory.getD []).filterMap devicePort?

/-- The ports of a machine, each name once and in no particular order.  What the enumeration says
about a port is preferred to its device file. -/
def entries (i : Inventory) : List Port :=
  distinctPorts (i.enumerated ++ i.deviceFiles)

/-- The log entries of a listing. -/
def log (i : Inventory) : List LogEntry :=
  match i.enumeration with
  | .ok _ => []
  | .error e => [.enumerationFailed e.description]

end Inventory

/-! ## Listing -/

/-- Ports in the order of the listing.  Ports that share a key stay in the order in which they are
given. -/
def arrange (ports : List Port) : List Port :=
  ports.mergeSort Port.le

/-- The ports of a machine in the order of the listing, those that share a key by their names. -/
def Inventory.listing (i : Inventory) : List Port :=
  arrange (i.entries.mergeSort Port.nameLe)

/-- Arranging ports changes nothing but their order. -/
theorem arrange_perm (ports : List Port) : (arrange ports).Perm ports :=
  List.mergeSort_perm ports Port.le

/-- A listing as a JSON list. -/
def portsToJson (ports : List Port) : Json :=
  .list (ports.map Port.toJson)

/-- A listing as text, one display after the other, each with a line end. -/
def portLines (ports : List Port) : String :=
  String.join (ports.map fun p => p.display ++ "\n")

end VersionProbe
