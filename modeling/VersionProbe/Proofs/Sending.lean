/-
# The sending of a frame

A frame may be taken in pieces of any size, with interruptions between them.  Each write call offers
exactly the bytes that the calls before it have left of the frame, so that no byte is offered again
once it is taken and none is left out.  Sending succeeds once the device has taken all of them, and
fails with the first call that ends the writing; either way it does nothing but write and, at the
end, report a frame that is written.

* `Writing.offersRest` : each write call offers what the calls before it have left.
* `send_eq_error_iff` : sending fails with the error of the first call that ends the writing.
* `send_forwards` : what the sending of a frame comes to, over any device.
-/
import Mathlib
import VersionProbe.Proofs.Totals
import VersionProbe.Proofs.Wording

namespace VersionProbe

/-! ## What is offered -/

namespace Device

/-- `OffersRest frame d calls` says that each of some write calls, on a device that was `d` before
the first of them, offers what is left of the frame after the calls before it, that something is
left, and that the call is answered as the device has it. -/
def OffersRest (frame : List UInt8) (d : Device)
    (calls : List (Call (List UInt8) (Except IoError Nat))) : Prop :=
  ∀ earlier call later, calls = earlier ++ call :: later →
    earlier.flatMap Trace.accepted ++ call.asked = frame ∧ call.asked ≠ [] ∧
      call = ((d.afterWrites earlier).write call.asked).call

variable {frame rest : List UInt8} {d : Device} {o : Outcome Device IoError Unit}

/-- Before the first write call the device is as it was. -/
theorem afterWrites_nil (d : Device) : d.afterWrites [] = d := rfl

/-- Without calls there is none that offers something else. -/
theorem offersRest_nil (frame : List UInt8) (d : Device) : OffersRest frame d [] := by
  intro earlier call later hsplit
  cases earlier <;> cases hsplit

/-- A call that offers the whole frame goes before calls that offer what it leaves. -/
theorem offersRest_cons {calls : List (Call (List UInt8) (Except IoError Nat))} (hne : frame ≠ [])
    (hrest : Trace.accepted (d.write frame).call ++ rest = frame)
    (hlater : OffersRest rest (d.write frame).device calls) :
    OffersRest frame d ((d.write frame).call :: calls) := by
  intro earlier call later hsplit
  cases earlier with
  | nil =>
    obtain ⟨rfl, rfl⟩ := List.cons.inj hsplit
    rw [List.flatMap_nil, List.nil_append, write_asked, afterWrites_nil]
    exact ⟨rfl, hne, rfl⟩
  | cons first earlier =>
    obtain ⟨rfl, hcalls⟩ := List.cons.inj hsplit
    obtain ⟨hasked, hsome, hcall⟩ := hlater earlier call later hcalls
    refine ⟨?_, hsome, ?_⟩
    · rw [List.flatMap_cons, List.append_assoc, hasked, hrest]
    · rwa [afterWrites_cons, ← write_device]

/-- Each write call of a writing offers what the calls before it have left of the frame. -/
theorem Writing.offersRest (h : Writing frame d o) :
    OffersRest frame d (Trace.writes o.trace) := by
  induction h with
  | done d => exact offersRest_nil _ _
  | @stuck frame d hne h =>
    refine offersRest_cons hne ?_ (offersRest_nil frame _)
    rw [Trace.accepted_of_ok h, List.take_zero, List.nil_append]
  | taken hne h later ih =>
    refine offersRest_cons hne ?_ ih
    rw [Trace.accepted_of_ok h, write_asked, List.take_append_drop]
  | interrupted hne h hkind again ih =>
    refine offersRest_cons hne ?_ ih
    rw [Trace.accepted_of_error h, List.nil_append]
  | @failed frame d e hne h hkind =>
    refine offersRest_cons hne ?_ (offersRest_nil frame _)
    rw [Trace.accepted_of_error h, List.nil_append]

/-- Of a frame without bytes nothing can be offered. -/
theorem OffersRest.eq_nil {calls : List (Call (List UInt8) (Except IoError Nat))}
    (h : OffersRest [] d calls) : calls = [] := by
  cases calls with
  | nil => rfl
  | cons call later =>
    obtain ⟨hasked, hsome, -⟩ := h [] call later rfl
    exact absurd hasked hsome

end Device

/-! ## What sending comes to -/

/-- Effects that are all write calls are the write calls among them. -/
theorem Trace.eq_map_writes {t : Trace} (h : ∀ effect ∈ t, ∃ call, effect = .write call) :
    t = (Trace.writes t).map Effect.write := by
  induction t with
  | nil => rfl
  | cons effect rest ih =>
    obtain ⟨⟨call, rfl⟩, hrest⟩ := List.forall_mem_cons.1 h
    exact congrArg (List.cons _) (ih hrest)

/-- Write calls alone report nothing. -/
theorem Trace.log_map_write (calls : List (Call (List UInt8) (Except IoError Nat))) :
    Trace.log (calls.map Effect.write) = [] := by
  apply List.filterMap_eq_nil_iff.2
  intro effect hmem
  obtain ⟨call, -, rfl⟩ := List.mem_map.1 hmem
  rfl

namespace Connection

/-- `Forwards frame c o` says what the sending of a frame over `c` that came to `o` has done: how
the frame was offered and how much of it was taken, what decided about success, and what has changed
and been reported. -/
structure Forwards (frame : List UInt8) (c : Connection)
    (o : Outcome Connection ProbeError Unit) : Prop where
  /-- The device has taken a beginning of the frame. -/
  part : Trace.written o.trace <+: frame
  /-- Each call offers what the calls before it have left. -/
  offers : c.device.OffersRest frame (Trace.writes o.trace)
  /-- Sending succeeds once the device has taken the whole frame. -/
  ok_iff : o.result = .ok () ↔ Trace.written o.trace = frame
  /-- It fails with the error of the first call that ends the writing, which is the last one. -/
  error_iff : ∀ e, o.result = .error e ↔
    ∃ calls last error, Trace.writes o.trace = calls ++ [last] ∧
      (∀ call ∈ calls, Trace.fault? call = none) ∧ Trace.fault? last = some error ∧ e = .io error
  /-- Nothing but the write calls happens, and the report of a frame that is written after them. -/
  trace_of_ok : o.result = .ok () →
    o.trace = (Trace.writes o.trace).map .write ++ [.log (.wrote frame)]
  /-- The report is one line, with the length of the frame and its bytes; they are read back. -/
  report_of_ok : o.result = .ok () →
    (Trace.log o.trace).map LogEntry.text = [LogEntry.wordingOn "DEBUG wrote " frame] ∧
      ((Trace.log o.trace).map LogEntry.text).filterMap LogEntry.listed? = [frame]
  trace_of_error : ∀ e, o.result = .error e →
    o.trace = (Trace.writes o.trace).map .write ∧ Trace.log o.trace = []
  /-- The frame is counted as a whole or not at all. -/
  sent_of_ok : o.result = .ok () → o.state.sent = c.sent + frame.length
  sent_of_error : ∀ e, o.result = .error e → o.state.sent = c.sent
  received : o.state.received = c.received
  config : o.state.config = c.config
  /-- Of the device, only the clock and the answers to writes have moved. -/
  device : o.state.device = c.device.afterWrites (Trace.writes o.trace)
  reads : o.state.device.reads = c.device.reads
  timeouts : o.state.device.timeouts = c.device.timeouts
  /-- A frame without bytes is written without a call. -/
  empty : frame = [] → o.result = .ok () ∧ Trace.writes o.trace = []

section Sending

variable {frame : List UInt8} {c : Connection}

/-- Sending that succeeds makes write calls and then reports the frame. -/
theorem trace_send_of_ok (h : (c.send frame).result = .ok ()) :
    (c.send frame).trace
      = (Trace.writes (c.send frame).trace).map .write ++ [.log (.wrote frame)] := by
  have hcalls := Trace.eq_map_writes (c.device.writeAll_writing frame).effects
  rw [writes_trace_send, ← hcalls]
  cases hres : (c.device.writeAll frame).result with
  | ok u => rw [send_of_written hres]
  | error e =>
    rw [send_of_unwritten hres] at h
    cases h

/-- Sending that succeeds reports the frame, and nothing else. -/
theorem texts_send_of_ok (h : (c.send frame).result = .ok ()) :
    (Trace.log (c.send frame).trace).map LogEntry.text
      = [LogEntry.wordingOn "DEBUG wrote " frame] := by
  rw [trace_send_of_ok h, Trace.log_append, Trace.log_map_write, List.nil_append]
  exact congrArg (fun text => [text]) (LogEntry.text_wrote frame)

/-- Sending that fails makes write calls and nothing else. -/
theorem trace_send_of_error {e : ProbeError} (h : (c.send frame).result = .error e) :
    (c.send frame).trace = (Trace.writes (c.send frame).trace).map .write := by
  have hcalls := Trace.eq_map_writes (c.device.writeAll_writing frame).effects
  rw [writes_trace_send, ← hcalls]
  cases hres : (c.device.writeAll frame).result with
  | ok u =>
    rw [send_of_written hres] at h
    cases h
  | error error => rw [send_of_unwritten hres]

/-- Each write call of the sending of a frame offers what the calls before it have left. -/
theorem send_offersRest (frame : List UInt8) (c : Connection) :
    c.device.OffersRest frame (Trace.writes (c.send frame).trace) := by
  rw [writes_trace_send]
  exact (c.device.writeAll_writing frame).offersRest

/-- Sending fails exactly where its last write call is the first to end the writing, and with the
error of this call. -/
theorem send_eq_error_iff {e : ProbeError} :
    (c.send frame).result = .error e ↔
      ∃ calls last error, Trace.writes (c.send frame).trace = calls ++ [last] ∧
        (∀ call ∈ calls, Trace.fault? call = none) ∧ Trace.fault? last = some error ∧
          e = .io error := by
  refine ⟨send_ends_in_fault, ?_⟩
  rintro ⟨calls, last, error, hcalls, -, hlast, rfl⟩
  cases hres : (c.send frame).result with
  | ok u =>
    -- No call of a sending that succeeds ends the writing, and `last` is one that does.
    have hmem : last ∈ Trace.writes (c.send frame).trace := by
      rw [hcalls]
      exact List.mem_append_right _ List.mem_cons_self
    rw [(c.written_send_eq_iff frame).1 (send_eq_ok_iff.1 hres) last hmem] at hlast
    cases hlast
  | error e =>
    obtain ⟨calls', last', error', hcalls', -, hlast', rfl⟩ := send_ends_in_fault hres
    obtain ⟨-, rfl⟩ := List.append_singleton_inj.1 (hcalls.symm.trans hcalls')
    rw [hlast] at hlast'
    obtain rfl := Option.some.inj hlast'
    rfl

/-- A frame without bytes is written without a call. -/
theorem send_nil (c : Connection) :
    (c.send []).result = .ok () ∧ Trace.writes (c.send []).trace = [] := by
  have hcalls := (c.send_offersRest []).eq_nil
  refine ⟨send_eq_ok_iff.2 ?_, hcalls⟩
  rw [Trace.written, hcalls, List.flatMap_nil]

end Sending

/-- **How a frame is sent.**  Over any connection, and however the device takes the frame in pieces,
interrupts a call or fails, each write call offers what the calls before it have left of the frame,
so that a beginning of the frame is handed over, once and in order.  Sending succeeds exactly if
this is the whole frame; otherwise it fails with the error of the first call that failed without
being interrupted, or that took nothing.  A frame that is written is counted and reported as a
whole, and one that is not leaves no mark but that of its write calls; the replies to come and the
answers to calls that set the timeout are as they were. -/
theorem send_forwards (frame : List UInt8) (c : Connection) : Forwards frame c (c.send frame) where
  part := by
    rw [written_send]
    exact Device.Writing.written_prefix (c.device.writeAll_writing frame)
  offers := c.send_offersRest frame
  ok_iff := send_eq_ok_iff
  error_iff e := send_eq_error_iff
  trace_of_ok := trace_send_of_ok
  report_of_ok h := by
    have htexts := texts_send_of_ok h
    refine ⟨htexts, ?_⟩
    rw [htexts, List.filterMap_cons, LogEntry.listed?_wordingOn (by decide), List.filterMap_nil]
  trace_of_error e h := by
    refine ⟨trace_send_of_error h, ?_⟩
    rw [trace_send_of_error h, Trace.log_map_write]
  sent_of_ok h := by rw [state_send_of_ok h, afterFrame]
  sent_of_error e h := by rw [state_send_of_error h]
  received := c.send_received frame
  config := c.send_config frame
  device := c.device_send_eq frame
  reads := by rw [device_send_eq, Device.afterWrites]
  timeouts := by rw [device_send_eq, Device.afterWrites]
  empty := by
    rintro rfl
    exact c.send_nil

/-- What is left of a frame is offered again after an interruption, and given up once nothing of it
is taken. -/
example :
    let c := ofDevice ⟨"", 115200, 1, 4⟩
      ⟨0, [], [⟨0, .ok (some 2)⟩, ⟨0, .error (.ofKind .interrupted)⟩, ⟨0, .ok (some 0)⟩], []⟩
    (Trace.writes (c.send [1, 2, 3]).trace).map Call.asked = [[1, 2, 3], [3], [3]] ∧
      (c.send [1, 2, 3]).result = .error (.io .nothingTaken) := by
  decide +kernel

end Connection

end VersionProbe
