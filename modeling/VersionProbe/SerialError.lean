/-
# Errors of the serial layer

What opening a port, setting its timeout or listing the ports can fail with.  Once the port is
open such an error is an I/O error like any other.
-/
import VersionProbe.IoError

namespace VersionProbe

/-- The kinds of error that the serial layer tells apart. -/
inductive SerialKind
  | noDevice
  | invalidInput
  | unknown
  | io (kind : IoKind)
deriving DecidableEq

/-- An error of the serial layer: its kind and a description. -/
structure SerialError where
  kind : SerialKind
  description : String
deriving DecidableEq

/-- The I/O kind that a serial kind amounts to. -/
def SerialKind.toIoKind : SerialKind → IoKind
  | noDevice => .notFound
  | invalidInput => .invalidInput
  | unknown => .other
  | io kind => kind

/-- Both kinds that say that there is no such port. -/
def SerialKind.meansMissing : SerialKind → Bool
  | noDevice => true
  | io .notFound => true
  | _ => false

/-- These two kinds and no others say that there is no such port. -/
theorem SerialKind.meansMissing_iff {kind : SerialKind} :
    kind.meansMissing = true ↔ kind = .noDevice ∨ kind = .io .notFound := by
  unfold meansMissing
  split <;> simp_all

/-- A serial error on an open port, with its description for a text. -/
def SerialError.toIoError (e : SerialError) : IoError :=
  ⟨e.kind.toIoKind, e.description⟩

end VersionProbe
