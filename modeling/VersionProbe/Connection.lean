/-
# Connections

An open port together with the settings it was opened with and two counters: the bytes sent and
the bytes received in replies.

* `acquire_of_opened` and its companions : how a port is acquired or not.
* `send_of_written`, `readReply_of_collected` and their companions : what the two operations come
  to, given how the transfer went.
* `send_effects` and its companions : which calls the two operations make.
* `exchange_of_send_ok`, `exchange_of_send_error` : a reply is read exactly when the frame was
  written.
-/
import VersionProbe.LocalVersion
import VersionProbe.Transfer

namespace VersionProbe

/-! ## Settings -/

/-- What a connection needs to know: the port and its speed, the time in milliseconds and the
number of bytes after which a reply ends. -/
structure Config where
  port : String
  baud : Nat
  timeoutMs : Nat
  maxReply : Nat
deriving DecidableEq

namespace Config

/-- The usual settings, for a port of some name. -/
def forPort (port : String) : Config :=
  ⟨port, 115200, 1000, 32⟩

/-- The usual settings, for no port yet. -/
def standard : Config :=
  forPort ""

/-- The time for a whole reply, in microseconds. -/
def timeout (c : Config) : Nat :=
  1000 * c.timeoutMs

/-- The line settings: eight data bits, no parity, one stop bit, no flow control. -/
def lineSettings (c : Config) : LineSettings :=
  { port := c.port
    baud := c.baud
    dataBits := .eight
    parity := .none
    stopBits := .one
    flowControl := .none
    timeout := c.timeout }

end Config

/-! ## Replies -/

/-- A raw reply: its bytes in the order in which they arrived. -/
structure Reply where
  bytes : List UInt8
deriving DecidableEq

namespace Reply

/-- The reply without any bytes. -/
def empty : Reply := ⟨[]⟩

/-- The number of bytes of a reply. -/
def length (r : Reply) : Nat := r.bytes.length

/-- Whether nothing arrived. -/
def isEmpty (r : Reply) : Bool := r.bytes.isEmpty

/-- The reply as a line of hexadecimal text. -/
def line (r : Reply) : String := Hex.line r.bytes

end Reply

/-! ## Connections -/

/-- An open port, with the number of bytes in the frames sent and in the replies received. -/
structure Connection where
  config : Config
  device : Device
  sent : Nat
  received : Nat

namespace Connection

/-- A connection over a device that is open already. -/
def ofDevice (config : Config) (device : Device) : Connection :=
  ⟨config, device, 0, 0⟩

/-- The error for a port that the serial layer does not open. -/
def refusal (port : String) (e : SerialError) : ProbeError :=
  if e.kind.meansMissing then .portNotFound port
  else .connectionFailed (.refused port e.description)

/-- Open the configured port, where `answer` is what the serial layer says to the attempt.  Without
a port name there is no attempt. -/
def acquire (config : Config) (answer : Except SerialError Device) :
    Except ProbeError Connection × Trace :=
  if config.port.isEmpty then
    (.error (.connectionFailed .noPort), [])
  else
    match answer with
    | .error e => (.error (refusal config.port e), [.opening config.lineSettings])
    | .ok device =>
      (.ok (ofDevice config device),
        [.opening config.lineSettings, .log (.opened config.port config.baud)])

/-- Write a frame.  The counter moves once the whole frame is written, and not at all if it is
not. -/
def send (frame : List UInt8) (c : Connection) : Outcome Connection ProbeError Unit :=
  let written := c.device.writeAll frame
  match written.result with
  | .ok () =>
    ⟨.ok (), { c with device := written.state, sent := c.sent + frame.length },
      written.trace ++ [.log (.wrote frame)]⟩
  | .error e => ⟨.error (.io e), { c with device := written.state }, written.trace⟩

/-- The clock reading at which a reply ends that is begun now. -/
def deadline (c : Connection) : Nat :=
  c.device.clock + c.config.timeout

/-- Collect a reply in a fresh buffer, until the deadline. -/
def collected (c : Connection) : Outcome Device IoError (List UInt8) :=
  c.device.collect c.deadline (.blank c.config.maxReply)

/-- Read a reply until there are enough bytes or the time is over; a short or empty reply is no
failure.  The counter moves by the length of the reply. -/
def readReply (c : Connection) : Outcome Connection ProbeError Reply :=
  match c.collected.result with
  | .ok bytes =>
    ⟨.ok ⟨bytes⟩, { c with device := c.collected.state, received := c.received + bytes.length },
      c.collected.trace⟩
  | .error e => ⟨.error (.io e), { c with device := c.collected.state }, c.collected.trace⟩

/-- Write a frame, then read the reply. -/
def exchange (frame : List UInt8) (c : Connection) : Outcome Connection ProbeError Reply :=
  (c.send frame).andThen fun _ c => c.readReply

/-- The log entry with which a connection gives its port back. -/
def closing (c : Connection) : LogEntry :=
  .closing c.config.port c.sent c.received

/-! ## Acquiring a port -/

section Acquire

variable {config : Config}

/-- Without a port name the serial layer is not asked. -/
theorem acquire_of_unnamed (h : config.port = "") (answer : Except SerialError Device) :
    acquire config answer = (.error (.connectionFailed .noPort), []) := by
  unfold acquire
  rw [if_pos (String.isEmpty_iff.2 h)]

/-- A port that the serial layer refuses to open is not acquired. -/
theorem acquire_of_refused (h : config.port ≠ "") (e : SerialError) :
    acquire config (.error e)
      = (.error (refusal config.port e), [.opening config.lineSettings]) := by
  unfold acquire
  rw [if_neg (mt String.isEmpty_iff.1 h)]

/-- A port that the serial layer opens is acquired, with nothing sent or received yet. -/
theorem acquire_of_opened (h : config.port ≠ "") (device : Device) :
    acquire config (.ok device)
      = (.ok (ofDevice config device),
          [.opening config.lineSettings, .log (.opened config.port config.baud)]) := by
  unfold acquire
  rw [if_neg (mt String.isEmpty_iff.1 h)]

end Acquire

/-! ## Operations and transfers -/

section Transfers

variable {frame : List UInt8} {c : Connection}

/-- A frame that is written is logged and counted. -/
theorem send_of_written (h : (c.device.writeAll frame).result = .ok ()) :
    c.send frame
      = ⟨.ok (), { c with device := (c.device.writeAll frame).state, sent := c.sent + frame.length },
          (c.device.writeAll frame).trace ++ [.log (.wrote frame)]⟩ := by
  simp only [send, h]

/-- Of a frame that is not written, only the calls on the device remain. -/
theorem send_of_unwritten {e : IoError} (h : (c.device.writeAll frame).result = .error e) :
    c.send frame
      = ⟨.error (.io e), { c with device := (c.device.writeAll frame).state },
          (c.device.writeAll frame).trace⟩ := by
  simp only [send, h]

/-- The bytes that were collected are the reply, and are counted. -/
theorem readReply_of_collected {bytes : List UInt8} (h : c.collected.result = .ok bytes) :
    c.readReply
      = ⟨.ok ⟨bytes⟩,
          { c with device := c.collected.state, received := c.received + bytes.length },
          c.collected.trace⟩ := by
  simp only [readReply, h]

/-- Of a reply that is lost, only the calls on the device remain. -/
theorem readReply_of_lost {e : IoError} (h : c.collected.result = .error e) :
    c.readReply
      = ⟨.error (.io e), { c with device := c.collected.state }, c.collected.trace⟩ := by
  simp only [readReply, h]

end Transfers

/-- The device after the sending of a frame is as it is after the writing. -/
theorem device_send (frame : List UInt8) (c : Connection) :
    (c.send frame).state.device = (c.device.writeAll frame).state := by
  rw [send]
  split <;> rfl

/-- The trace of the reading of a reply is that of the collecting. -/
theorem trace_readReply (c : Connection) : c.readReply.trace = c.collected.trace := by
  rw [readReply]
  split <;> rfl

/-- The device after the reading of a reply is as it is after the collecting. -/
theorem device_readReply (c : Connection) : c.readReply.state.device = c.collected.state := by
  rw [readReply]
  split <;> rfl

/-- Once the frame is written, an exchange is a read from there. -/
theorem exchange_of_send_ok {frame : List UInt8} {c : Connection}
    (h : (c.send frame).result = .ok ()) :
    c.exchange frame = ((c.send frame).state.readReply).after (c.send frame).trace :=
  Outcome.andThen_of_ok h _

/-- Where the frame is not written, nothing is read. -/
theorem exchange_of_send_error {frame : List UInt8} {c : Connection} {e : ProbeError}
    (h : (c.send frame).result = .error e) :
    c.exchange frame = ⟨.error e, (c.send frame).state, (c.send frame).trace⟩ :=
  Outcome.andThen_of_error h _

/-! ## What is done -/

section Effects

variable (frame : List UInt8) (c : Connection)

/-- Sending makes write calls and writes to the log. -/
theorem send_effects : ∀ effect ∈ (c.send frame).trace,
    (∃ call, effect = .write call) ∨ ∃ entry, effect = .log entry := by
  have hcalls := (c.device.writeAll_writing frame).effects
  cases hwritten : (c.device.writeAll frame).result with
  | ok u =>
    rw [send_of_written hwritten]
    exact List.forall_mem_append.2
      ⟨fun effect hmem => Or.inl (hcalls effect hmem),
        List.forall_mem_singleton.2 (Or.inr ⟨_, rfl⟩)⟩
  | error e =>
    rw [send_of_unwritten hwritten]
    exact fun effect hmem => Or.inl (hcalls effect hmem)

/-- The write calls of the sending of a frame are those of the writing. -/
theorem writes_trace_send :
    Trace.writes (c.send frame).trace = Trace.writes (c.device.writeAll frame).trace := by
  cases hwritten : (c.device.writeAll frame).result with
  | ok u =>
    rw [send_of_written hwritten, Trace.writes_append]
    exact List.append_nil _
  | error e => rw [send_of_unwritten hwritten]

/-- Sending makes no read call. -/
theorem reads_trace_send : Trace.reads (c.send frame).trace = [] := by
  apply List.filterMap_eq_nil_iff.2
  intro effect hmem
  rcases c.send_effects frame effect hmem with ⟨call, rfl⟩ | ⟨entry, rfl⟩
  · rfl
  · rfl

/-- Sending does not set the timeout. -/
theorem timeouts_trace_send : Trace.timeouts (c.send frame).trace = [] := by
  apply List.filterMap_eq_nil_iff.2
  intro effect hmem
  rcases c.send_effects frame effect hmem with ⟨call, rfl⟩ | ⟨entry, rfl⟩
  · rfl
  · rfl

/-- Reading a reply makes no write call. -/
theorem writes_trace_readReply : Trace.writes c.readReply.trace = [] := by
  rw [trace_readReply]
  apply List.filterMap_eq_nil_iff.2
  intro effect hmem
  have hreading := (Device.collect_collecting _ _ _).effects effect hmem
  cases effect with
  | write call => cases hreading
  | _ => rfl

/-- An exchange makes the write calls that sending makes. -/
theorem writes_trace_exchange :
    Trace.writes (c.exchange frame).trace = Trace.writes (c.send frame).trace := by
  cases hsend : (c.send frame).result with
  | ok u =>
    rw [exchange_of_send_ok hsend, Outcome.after_trace, Trace.writes_append, writes_trace_readReply,
      List.append_nil]
  | error e => rw [exchange_of_send_error hsend]

end Effects

/-! ## What stays as it was -/

section Frame

variable (frame : List UInt8) (c : Connection)

/-- Sending leaves the settings alone. -/
@[simp] theorem send_config : (c.send frame).state.config = c.config := by
  rw [send]
  split <;> rfl

/-- Sending counts no byte as received. -/
@[simp] theorem send_received : (c.send frame).state.received = c.received := by
  rw [send]
  split <;> rfl

/-- Reading a reply counts no byte as sent. -/
@[simp] theorem readReply_sent : c.readReply.state.sent = c.sent := by
  rw [readReply]
  split <;> rfl

/-- Reading a reply leaves the settings alone. -/
@[simp] theorem readReply_config : c.readReply.state.config = c.config := by
  rw [readReply]
  split <;> rfl

/-- An exchange leaves the settings alone. -/
@[simp] theorem exchange_config : (c.exchange frame).state.config = c.config := by
  cases hsend : (c.send frame).result with
  | ok u => rw [exchange_of_send_ok hsend, Outcome.after_state, readReply_config, send_config]
  | error e => rw [exchange_of_send_error hsend, send_config]

end Frame

end Connection

end VersionProbe
