/-
# The two phases of an exchange

An exchange writes a frame and reads the reply to it, and the first phase is over before the second
begins.  Where the device takes the whole frame, the rest of the exchange is the reading of a reply
from the device as the write calls have left it, with the whole of the time for a reply before it.
Where one of the write calls ends the writing, the exchange fails with the error of that call and
leaves everything that belongs to the second phase as it was.

* `Writing.state_eq` : what the write calls do to the device.
* `Writing.ends_in_fault` : the writing of a frame fails with the error of its last call.
* `exchange_reads_after_writing` : an exchange goes in exactly one of the two ways.
-/
import Mathlib
import VersionProbe.Proofs.Deadline
import VersionProbe.Proofs.Frames

namespace VersionProbe

/-! ## Write calls -/

/-- The error with which a write call ends the writing of a frame, if it does so: one that takes
nothing does, and so does one that fails, unless it is interrupted. -/
def Trace.fault? (call : Call (List UInt8) (Except IoError Nat)) : Option IoError :=
  match call.answer with
  | .ok 0 => some ⟨.writeZero, "failed to write whole buffer"⟩
  | .ok (_ + 1) => none
  | .error e => if e.kind = .interrupted then none else some e

/-- A device after some write calls: the time that they took has passed, and their answers are used
up. -/
def Device.afterWrites (calls : List (Call (List UInt8) (Except IoError Nat))) (d : Device) :
    Device :=
  { d with
    clock := d.clock + (calls.map Call.took).sum
    writes := d.writes.drop calls.length }

namespace Trace

variable {call : Call (List UInt8) (Except IoError Nat)} {n : Nat} {e : IoError}

/-- A write call that takes nothing ends the writing. -/
theorem fault?_of_nothing (h : call.answer = .ok 0) : fault? call = some IoError.nothingTaken := by
  rw [fault?, h]
  rfl

/-- A write call that takes something does not end the writing. -/
theorem fault?_of_some (h : call.answer = .ok (n + 1)) : fault? call = none := by
  rw [fault?, h]

/-- An interrupted write call does not end the writing. -/
theorem fault?_of_interrupted (h : call.answer = .error e) (hkind : e.kind = .interrupted) :
    fault? call = none := by
  rw [fault?, h]
  exact if_pos hkind

/-- A write call that fails otherwise ends the writing, one that times out no less than others. -/
theorem fault?_of_failure (h : call.answer = .error e) (hkind : e.kind ≠ .interrupted) :
    fault? call = some e := by
  rw [fault?, h]
  exact if_neg hkind

end Trace

namespace Device

/-- The device after a write call is as the call leaves it. -/
theorem write_device (frame : List UInt8) (d : Device) :
    (d.write frame).device = d.afterWrites [(d.write frame).call] := by
  obtain ⟨clock, reads, writes, timeouts⟩ := d
  cases writes with
  | nil => rfl
  | cons step rest => rfl

/-- What several write calls do to a device, the first one does before the others. -/
theorem afterWrites_cons (call : Call (List UInt8) (Except IoError Nat))
    (calls : List (Call (List UInt8) (Except IoError Nat))) (d : Device) :
    d.afterWrites (call :: calls) = (d.afterWrites [call]).afterWrites calls := by
  have hclock : d.clock + ((call :: calls).map Call.took).sum
      = d.clock + ([call].map Call.took).sum + (calls.map Call.took).sum := by
    simp only [List.map_cons, List.map_nil, List.sum_cons, List.sum_nil]
    omega
  have hwrites : d.writes.drop (call :: calls).length
      = (d.writes.drop [call].length).drop calls.length := by
    rw [List.drop_drop, List.length_cons, List.length_singleton, Nat.add_comm]
  unfold afterWrites
  rw [hclock, hwrites]

section Writing

variable {frame : List UInt8} {d : Device} {o : Outcome Device IoError Unit}

/-- The write calls that follow a first one come after it. -/
theorem writes_after (call : Call (List UInt8) (Except IoError Nat)) :
    Trace.writes (o.after [.write call]).trace = call :: Trace.writes o.trace := rfl

/-- The writing of a frame leaves the device as its write calls do. -/
theorem Writing.state_eq (h : Writing frame d o) :
    o.state = d.afterWrites (Trace.writes o.trace) := by
  induction h with
  | done d => rfl
  | stuck hne h => exact write_device _ _
  | taken hne h rest ih => rw [Outcome.after_state, ih, writes_after, afterWrites_cons, write_device]
  | interrupted hne h hkind again ih =>
    rw [Outcome.after_state, ih, writes_after, afterWrites_cons, write_device]
  | failed hne h hkind => exact write_device _ _

/-- No call of a writing that succeeds ends it. -/
theorem Writing.no_fault (h : Writing frame d o) (hok : o.result = .ok ()) :
    ∀ call ∈ Trace.writes o.trace, Trace.fault? call = none := by
  induction h with
  | done d => exact List.forall_mem_nil _
  | stuck hne h => cases hok
  | taken hne h rest ih =>
    exact List.forall_mem_cons.2 ⟨Trace.fault?_of_some h, ih hok⟩
  | interrupted hne h hkind again ih =>
    exact List.forall_mem_cons.2 ⟨Trace.fault?_of_interrupted h hkind, ih hok⟩
  | failed hne h hkind => cases hok

/-- A writing that fails ends with the first call that ends it, and fails with the error of this
call. -/
theorem Writing.ends_in_fault (h : Writing frame d o) {e : IoError} (herror : o.result = .error e) :
    ∃ calls last, Trace.writes o.trace = calls ++ [last] ∧
      (∀ call ∈ calls, Trace.fault? call = none) ∧ Trace.fault? last = some e := by
  induction h with
  | done d => cases herror
  | stuck hne h =>
    obtain rfl := Except.error.inj herror
    exact ⟨[], _, rfl, List.forall_mem_nil _, Trace.fault?_of_nothing h⟩
  | taken hne h rest ih =>
    obtain ⟨calls, last, hcalls, hnone, hlast⟩ := ih herror
    refine ⟨_ :: calls, last, congrArg (List.cons _) hcalls, ?_, hlast⟩
    exact List.forall_mem_cons.2 ⟨Trace.fault?_of_some h, hnone⟩
  | interrupted hne h hkind again ih =>
    obtain ⟨calls, last, hcalls, hnone, hlast⟩ := ih herror
    refine ⟨_ :: calls, last, congrArg (List.cons _) hcalls, ?_, hlast⟩
    exact List.forall_mem_cons.2 ⟨Trace.fault?_of_interrupted h hkind, hnone⟩
  | failed hne h hkind =>
    obtain rfl := Except.error.inj herror
    exact ⟨[], _, rfl, List.forall_mem_nil _, Trace.fault?_of_failure h hkind⟩

end Writing

end Device

/-! ## Exchanges -/

namespace Connection

/-- A connection after the write calls of `t`, by which the device has taken a whole frame: the
frame is counted. -/
def afterFrame (frame : List UInt8) (t : Trace) (c : Connection) : Connection :=
  { c with
    device := c.device.afterWrites (Trace.writes t)
    sent := c.sent + frame.length }

/-- `ReadsAfterWriting frame c o` says that an exchange over `c` that came to `o` wrote the whole
frame before it set a timeout or read, and that the rest of it is the reading of a reply over the
connection as it was then, with the deadline counted from the time at which the writing ended. -/
structure ReadsAfterWriting (frame : List UInt8) (c : Connection)
    (o : Outcome Connection ProbeError Reply) : Prop where
  whole : Trace.written o.trace = frame
  order : ∃ writing,
    o.trace = writing ++ (c.afterFrame frame o.trace).readReply.trace ∧
      Trace.written writing = frame ∧ Trace.timeouts writing = [] ∧ Trace.reads writing = []
  result : o.result = (c.afterFrame frame o.trace).readReply.result
  state : o.state = (c.afterFrame frame o.trace).readReply.state
  sent : o.state.sent = c.sent + frame.length
  deadline : ∀ call ∈ Trace.timeouts o.trace,
    AsksTimeLeft (c.device.afterWrites (Trace.writes o.trace)).clock
      ((c.device.afterWrites (Trace.writes o.trace)).clock + 1000 * c.config.timeoutMs) call

/-- `FailsInWriting frame c o` says that an exchange over `c` that came to `o` failed with the error
of its last write call, the first one to end the writing, after the device had taken a part of the
frame only; that it set no timeout and did not read; and that apart from its write calls everything
is as it was. -/
structure FailsInWriting (frame : List UInt8) (c : Connection)
    (o : Outcome Connection ProbeError Reply) : Prop where
  fault : ∃ calls last e, Trace.writes o.trace = calls ++ [last] ∧
    (∀ call ∈ calls, Trace.fault? call = none) ∧ Trace.fault? last = some e ∧
      o.result = .error (.io e)
  part : Trace.written o.trace <+: frame
  not_whole : Trace.written o.trace ≠ frame
  timeouts : Trace.timeouts o.trace = []
  reads : Trace.reads o.trace = []
  state : o.state = { c with device := c.device.afterWrites (Trace.writes o.trace) }

section Phases

variable {frame : List UInt8} {c : Connection}

/-- The device after the sending of a frame is as the write calls leave it. -/
theorem device_send_eq (frame : List UInt8) (c : Connection) :
    (c.send frame).state.device = c.device.afterWrites (Trace.writes (c.send frame).trace) := by
  rw [device_send, writes_trace_send]
  exact (c.device.writeAll_writing frame).state_eq

/-- While a reply is read, every timeout is the time left. -/
theorem timeouts_timeLeft_readReply (c : Connection) :
    ∀ call ∈ Trace.timeouts c.readReply.trace, AsksTimeLeft c.device.clock c.deadline call := by
  rw [trace_readReply]
  exact (Device.collect_collecting _ _ _).timeouts_timeLeft

/-- A frame that is written is counted, and the device is as the write calls leave it. -/
theorem state_send_of_ok (h : (c.send frame).result = .ok ()) :
    (c.send frame).state = c.afterFrame frame (c.send frame).trace := by
  have hdevice := c.device_send_eq frame
  cases hres : (c.device.writeAll frame).result with
  | ok u =>
    rw [send_of_written hres] at hdevice ⊢
    rw [afterFrame, ← hdevice]
  | error e =>
    rw [send_of_unwritten hres] at h
    cases h

/-- Where a frame is not written, the device is as the write calls leave it, and nothing else has
changed. -/
theorem state_send_of_error {e : ProbeError} (h : (c.send frame).result = .error e) :
    (c.send frame).state
      = { c with device := c.device.afterWrites (Trace.writes (c.send frame).trace) } := by
  have hdevice := c.device_send_eq frame
  cases hres : (c.device.writeAll frame).result with
  | ok u =>
    rw [send_of_written hres] at h
    cases h
  | error e =>
    rw [send_of_unwritten hres] at hdevice ⊢
    rw [← hdevice]

/-- Sending succeeds exactly where the device takes the whole frame. -/
theorem send_eq_ok_iff :
    (c.send frame).result = .ok () ↔ Trace.written (c.send frame).trace = frame := by
  rw [written_send, ← (c.device.writeAll_writing frame).result_eq_ok_iff]
  cases hres : (c.device.writeAll frame).result with
  | ok u => simp [send_of_written hres]
  | error e => simp [send_of_unwritten hres]

/-- Sending that fails ends with the first write call that ends the writing, and fails with the
error of this call. -/
theorem send_ends_in_fault {e : ProbeError} (h : (c.send frame).result = .error e) :
    ∃ calls last error, Trace.writes (c.send frame).trace = calls ++ [last] ∧
      (∀ call ∈ calls, Trace.fault? call = none) ∧ Trace.fault? last = some error ∧
        e = .io error := by
  rw [writes_trace_send]
  cases hres : (c.device.writeAll frame).result with
  | ok u =>
    rw [send_of_written hres] at h
    cases h
  | error error =>
    rw [send_of_unwritten hres] at h
    obtain ⟨calls, last, hcalls, hnone, hlast⟩ :=
      (c.device.writeAll_writing frame).ends_in_fault hres
    exact ⟨calls, last, error, hcalls, hnone, hlast, (Except.error.inj h).symm⟩

/-- An exchange whose frame is written reads the reply after that. -/
theorem readsAfterWriting_of_send_ok (h : (c.send frame).result = .ok ()) :
    ReadsAfterWriting frame c (c.exchange frame) := by
  have hwritten := send_eq_ok_iff.1 h
  have hreader : (c.send frame).state = c.afterFrame frame (c.exchange frame).trace := by
    rw [state_send_of_ok h, afterFrame, afterFrame, writes_trace_exchange]
  have hexchange := exchange_of_send_ok h
  rw [hreader] at hexchange
  have htrace := congrArg Outcome.trace hexchange
  have hresult := congrArg Outcome.result hexchange
  have hstate := congrArg Outcome.state hexchange
  rw [Outcome.after_trace] at htrace
  rw [Outcome.after_result] at hresult
  rw [Outcome.after_state] at hstate
  refine ⟨?_, ⟨_, htrace, hwritten, c.timeouts_trace_send frame, c.reads_trace_send frame⟩,
    hresult, hstate, ?_, ?_⟩
  · rw [written_exchange, hwritten]
  · rw [hstate, readReply_sent, afterFrame]
  · -- No timeout is set before the reading begins.
    intro call hcall
    rw [htrace, Trace.timeouts_append, timeouts_trace_send, List.nil_append] at hcall
    exact timeouts_timeLeft_readReply _ call hcall

/-- An exchange whose frame is not written fails in the writing. -/
theorem failsInWriting_of_send_error {e : ProbeError} (h : (c.send frame).result = .error e) :
    FailsInWriting frame c (c.exchange frame) := by
  obtain ⟨calls, last, error, hcalls, hnone, hlast, rfl⟩ := send_ends_in_fault h
  rw [exchange_of_send_error h]
  refine ⟨⟨calls, last, error, hcalls, hnone, hlast, rfl⟩, ?_, ?_, c.timeouts_trace_send frame,
    c.reads_trace_send frame, state_send_of_error h⟩
  · show Trace.written (c.send frame).trace <+: frame
    rw [written_send]
    exact Device.Writing.written_prefix (c.device.writeAll_writing frame)
  · intro hwhole
    rw [send_eq_ok_iff.2 hwhole] at h
    cases h

end Phases

/-- **An exchange writes before it reads.**  Over any connection, whatever its settings, its
counters, and the answers of its device, an exchange goes in exactly one of two ways.  Either the
device takes the whole frame, once and in order, before the first timeout is set and the first read
is made; then the frame is counted, even if the reply is lost, and the reply is read as it would be
by itself from the time at which the writing ended.  Or the exchange fails with the error of its
last write call, whatever the kind of it, after a part of the frame only; then no timeout was set
and nothing was read, and the counters and the answers to come for the second phase are as they
were. -/
theorem exchange_reads_after_writing (frame : List UInt8) (c : Connection) :
    (ReadsAfterWriting frame c (c.exchange frame) ∨ FailsInWriting frame c (c.exchange frame)) ∧
      ¬ (ReadsAfterWriting frame c (c.exchange frame) ∧
        FailsInWriting frame c (c.exchange frame)) := by
  constructor
  · cases hsend : (c.send frame).result with
    | ok u => exact Or.inl (readsAfterWriting_of_send_ok hsend)
    | error e => exact Or.inr (failsInWriting_of_send_error hsend)
  · rintro ⟨hreads, hfails⟩
    exact hfails.not_whole hreads.whole

/-- A write that times out is no end of a reply: the exchange fails, and the reply stays with the
device. -/
example :
    let c := ofDevice ⟨"", 115200, 1, 4⟩
      ⟨0, [⟨0, .ok [7]⟩], [⟨0, .ok (some 1)⟩, ⟨0, .error .timedOut⟩], []⟩
    (c.exchange [1, 2]).result = .error (.io .timedOut) ∧
      (c.exchange [1, 2]).state.device.pending = [7] := by
  decide +kernel

end Connection

end VersionProbe
