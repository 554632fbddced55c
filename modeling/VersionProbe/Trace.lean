/-
# Traces

What a run does to the world around it, in order: the calls on the device with what was asked and
answered, the log entries, and the text on the two output streams.  Everything that can be said
about a run besides its result is read off its trace.
-/
import VersionProbe.Log
import VersionProbe.SerialError

namespace VersionProbe

/-! ## Effects -/

/-- The number of data bits of a character on the line. -/
inductive DataBits
  | five
  | six
  | seven
  | eight
deriving DecidableEq

/-- The parity bit of a character on the line. -/
inductive Parity
  | none
  | odd
  | even
deriving DecidableEq

/-- The number of stop bits after a character on the line. -/
inductive StopBits
  | one
  | two
deriving DecidableEq

/-- How the two ends of the line slow each other down. -/
inductive FlowControl
  | none
  | software
  | hardware
deriving DecidableEq

/-- The settings with which a port is opened; the timeout is in microseconds. -/
structure LineSettings where
  port : String
  baud : Nat
  dataBits : DataBits
  parity : Parity
  stopBits : StopBits
  flowControl : FlowControl
  timeout : Nat
deriving DecidableEq

/-- One call on a device: the clock when it began and the time it took, both in microseconds, what
was asked, and what was answered. -/
structure Call (α β : Type) where
  start : Nat
  took : Nat
  asked : α
  answer : β

/-- One thing that a run does to the world around it. -/
inductive Effect
  /-- An attempt to open a port. -/
  | opening (settings : LineSettings)
  /-- Bytes were offered to the device, which took some of them from the front or failed. -/
  | write (call : Call (List UInt8) (Except IoError Nat))
  /-- The device was told how many microseconds the next read may wait. -/
  | setTimeout (call : Call Nat (Except SerialError Unit))
  /-- The device was asked for at most so many bytes. -/
  | read (call : Call Nat (Except IoError (List UInt8)))
  /-- The system was asked for its ports. -/
  | enumeration
  /-- A log entry. -/
  | log (entry : LogEntry)
  /-- Text on the standard output. -/
  | print (text : String)
  /-- Text on the standard error. -/
  | complain (text : String)

namespace Effect

/-- Whether an effect reaches beyond the program's own output. -/
def isContact : Effect → Bool
  | opening _ => true
  | write _ => true
  | setTimeout _ => true
  | read _ => true
  | enumeration => true
  | _ => false

/-- Whether an effect can be part of the reading of a reply. -/
def isReading : Effect → Bool
  | setTimeout _ => true
  | read _ => true
  | log _ => true
  | _ => false

end Effect

/-! ## Traces -/

/-- The effects of a run, in order. -/
abbrev Trace := List Effect

namespace Trace

/-- The settings of the attempts to open a port. -/
def openings (t : Trace) : List LineSettings :=
  t.filterMap fun
    | .opening settings => some settings
    | _ => none

/-- The write calls. -/
def writes (t : Trace) : List (Call (List UInt8) (Except IoError Nat)) :=
  t.filterMap fun
    | .write call => some call
    | _ => none

/-- The calls that set the timeout. -/
def timeouts (t : Trace) : List (Call Nat (Except SerialError Unit)) :=
  t.filterMap fun
    | .setTimeout call => some call
    | _ => none

/-- The read calls. -/
def reads (t : Trace) : List (Call Nat (Except IoError (List UInt8))) :=
  t.filterMap fun
    | .read call => some call
    | _ => none

/-- The log entries. -/
def log (t : Trace) : List LogEntry :=
  t.filterMap fun
    | .log entry => some entry
    | _ => none

/-- The bytes that a write call handed over. -/
def accepted (call : Call (List UInt8) (Except IoError Nat)) : List UInt8 :=
  match call.answer with
  | .ok n => call.asked.take n
  | .error _ => []

/-- A write call that succeeds hands over the bytes that were taken. -/
theorem accepted_of_ok {call : Call (List UInt8) (Except IoError Nat)} {n : Nat}
    (h : call.answer = .ok n) : accepted call = call.asked.take n := by
  rw [accepted, h]

/-- A write call that fails hands over nothing. -/
theorem accepted_of_error {call : Call (List UInt8) (Except IoError Nat)} {e : IoError}
    (h : call.answer = .error e) : accepted call = [] := by
  rw [accepted, h]

/-- The bytes that a read call brought. -/
def arrived (call : Call Nat (Except IoError (List UInt8))) : List UInt8 :=
  match call.answer with
  | .ok bytes => bytes
  | .error _ => []

/-- A read call that succeeds brings the bytes it is answered with. -/
theorem arrived_of_ok {call : Call Nat (Except IoError (List UInt8))} {bytes : List UInt8}
    (h : call.answer = .ok bytes) : arrived call = bytes := by
  rw [arrived, h]

/-- A read call that fails brings nothing. -/
theorem arrived_of_error {call : Call Nat (Except IoError (List UInt8))} {e : IoError}
    (h : call.answer = .error e) : arrived call = [] := by
  rw [arrived, h]

/-- All bytes that the device took, in order. -/
def written (t : Trace) : List UInt8 :=
  (writes t).flatMap accepted

/-- All bytes that the device delivered, in order. -/
def delivered (t : Trace) : List UInt8 :=
  (reads t).flatMap arrived

/-- Whether the run reached beyond its own output. -/
def touchesWorld (t : Trace) : Bool :=
  t.any Effect.isContact

/-- The text on the standard output. -/
def stdout (t : Trace) : String :=
  String.join (t.filterMap fun
    | .print text => some text
    | _ => none)

/-! ## Traces one after the other -/

/-- The write calls of two traces, one after the other. -/
theorem writes_append (s t : Trace) : writes (s ++ t) = writes s ++ writes t :=
  List.filterMap_append

/-- The timeout calls of two traces, one after the other. -/
theorem timeouts_append (s t : Trace) : timeouts (s ++ t) = timeouts s ++ timeouts t :=
  List.filterMap_append

/-- The read calls of two traces, one after the other. -/
theorem reads_append (s t : Trace) : reads (s ++ t) = reads s ++ reads t :=
  List.filterMap_append

/-- The log entries of two traces, one after the other. -/
theorem log_append (s t : Trace) : log (s ++ t) = log s ++ log t :=
  List.filterMap_append

/-- The bytes written in two traces, one after the other. -/
theorem written_append (s t : Trace) : written (s ++ t) = written s ++ written t := by
  rw [written, writes_append, List.flatMap_append]
  rfl

/-- The bytes delivered in two traces, one after the other. -/
theorem delivered_append (s t : Trace) : delivered (s ++ t) = delivered s ++ delivered t := by
  rw [delivered, reads_append, List.flatMap_append]
  rfl

/-! ## Contacts -/

/-- The effects that reach beyond the program's own output, in order. -/
def contacts (t : Trace) : Trace :=
  t.filter Effect.isContact

/-- The contacts of two traces, one after the other. -/
theorem contacts_append (s t : Trace) : contacts (s ++ t) = contacts s ++ contacts t :=
  List.filter_append s t

/-- What is asked about contacts only is not changed by leaving out everything else. -/
theorem filterMap_contacts {α : Type} {f : Effect → Option α}
    (hf : ∀ effect, effect.isContact = false → f effect = none) (t : Trace) :
    (contacts t).filterMap f = t.filterMap f := by
  unfold contacts
  rw [List.filterMap_filter]
  congr 1
  funext effect
  cases hcontact : effect.isContact with
  | true => rfl
  | false => exact (hf effect hcontact).symm

/-- The openings of a trace are among its contacts. -/
theorem openings_contacts (t : Trace) : openings (contacts t) = openings t := by
  apply filterMap_contacts
  intro effect h
  cases effect with
  | opening settings => cases h
  | _ => rfl

/-- The write calls of a trace are among its contacts. -/
theorem writes_contacts (t : Trace) : writes (contacts t) = writes t := by
  apply filterMap_contacts
  intro effect h
  cases effect with
  | write call => cases h
  | _ => rfl

/-- The timeout calls of a trace are among its contacts. -/
theorem timeouts_contacts (t : Trace) : timeouts (contacts t) = timeouts t := by
  apply filterMap_contacts
  intro effect h
  cases effect with
  | setTimeout call => cases h
  | _ => rfl

/-- The read calls of a trace are among its contacts. -/
theorem reads_contacts (t : Trace) : reads (contacts t) = reads t := by
  apply filterMap_contacts
  intro effect h
  cases effect with
  | read call => cases h
  | _ => rfl

/-- The bytes written in a trace are written by its contacts. -/
theorem written_contacts (t : Trace) : written (contacts t) = written t := by
  rw [written, writes_contacts, written]

end Trace

end VersionProbe
