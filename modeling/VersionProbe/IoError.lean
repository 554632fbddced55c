/-
# I/O errors

What a read, a write or a change of settings on an open port can fail with: a kind, on which the
rest of the program decides, and a text for the reader.
-/

namespace VersionProbe

/-! ## Kinds -/

/-- The kinds of I/O error that are told apart. -/
inductive IoKind
  | notFound
  | permissionDenied
  | connectionRefused
  | connectionReset
  | connectionAborted
  | notConnected
  | addrInUse
  | addrNotAvailable
  | brokenPipe
  | alreadyExists
  | wouldBlock
  | invalidInput
  | invalidData
  | timedOut
  | writeZero
  | interrupted
  | unsupported
  | unexpectedEof
  | outOfMemory
  | resourceBusy
  | inputOutput
  | uncategorized
  | other
deriving DecidableEq

namespace IoKind

/-- The text of an error of which nothing but the kind is known. -/
def description : IoKind → String
  | notFound => "entity not found"
  | permissionDenied => "permission denied"
  | connectionRefused => "connection refused"
  | connectionReset => "connection reset"
  | connectionAborted => "connection aborted"
  | notConnected => "not connected"
  | addrInUse => "address in use"
  | addrNotAvailable => "address not available"
  | brokenPipe => "broken pipe"
  | alreadyExists => "entity already exists"
  | wouldBlock => "operation would block"
  | invalidInput => "invalid input parameter"
  | invalidData => "invalid data"
  | timedOut => "timed out"
  | writeZero => "write zero"
  | interrupted => "operation interrupted"
  | unsupported => "unsupported"
  | unexpectedEof => "unexpected end of file"
  | outOfMemory => "out of memory"
  | resourceBusy => "resource busy"
  | inputOutput => "input/output error"
  | uncategorized => "uncategorized error"
  | other => "other error"

end IoKind

/-! ## Errors -/

/-- An I/O error: its kind and the text that is shown for it. -/
structure IoError where
  kind : IoKind
  text : String
deriving DecidableEq

namespace IoError

/-- The error of which nothing but the kind is known. -/
def ofKind (kind : IoKind) : IoError :=
  ⟨kind, kind.description⟩

/-- A read that brought nothing within its timeout. -/
def timedOut : IoError :=
  ofKind .timedOut

/-- A write that was not refused and still took no byte. -/
def nothingTaken : IoError :=
  ⟨.writeZero, "failed to write whole buffer"⟩

/-- The kind and the system's words for an error number. -/
def errnoMeaning : Nat → IoKind × String
  | 1 => (.permissionDenied, "Operation not permitted")
  | 2 => (.notFound, "No such file or directory")
  | 4 => (.interrupted, "Interrupted system call")
  | 5 => (.inputOutput, "Input/output error")
  | 6 => (.uncategorized, "No such device or address")
  | 9 => (.uncategorized, "Bad file descriptor")
  | 11 => (.wouldBlock, "Resource temporarily unavailable")
  | 12 => (.outOfMemory, "Cannot allocate memory")
  | 13 => (.permissionDenied, "Permission denied")
  | 16 => (.resourceBusy, "Device or resource busy")
  | 17 => (.alreadyExists, "File exists")
  | 19 => (.uncategorized, "No such device")
  | 22 => (.invalidInput, "Invalid argument")
  | 25 => (.uncategorized, "Inappropriate ioctl for device")
  | 32 => (.brokenPipe, "Broken pipe")
  | 110 => (.timedOut, "Connection timed out")
  | n => (.uncategorized, "Unknown error " ++ toString n)

/-- The error that the system reports by number; the number is part of the text. -/
def ofErrno (n : Nat) : IoError :=
  ⟨(errnoMeaning n).1, (errnoMeaning n).2 ++ " (os error " ++ toString n ++ ")"⟩

end IoError

end VersionProbe
