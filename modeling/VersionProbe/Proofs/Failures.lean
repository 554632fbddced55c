/-
# Where a failure comes from

A probe fails in one of three phases: while the port is being acquired, during an operation on the
open port, or when the bytes of a reply are decoded.  The error tells which phase it was, whatever
the cause: the serial layer can fail with the same error in the first phase and in the second, and
it is reported as a missing port in the first only.

* `refusal_eq_portNotFound_iff` : which refusals to open a port mean that there is none.
* `Collecting.result_of_refused` : a refusal to set the timeout is an I/O error.
* `io_of_perform_error` : operations on an open port fail with I/O errors.
* `invalidReply_of_decoding` : decoding fails with faults of the reply.
-/
import VersionProbe.Proofs.VersionReply
import VersionProbe.Session

namespace VersionProbe

/-! ## Acquiring the port -/

namespace Connection

/-- What can be said of a failure to acquire a port: its error is one of the two of this phase, the
serial layer was asked to open the port if one was named, and nothing else was asked of the device.
There is no such port exactly if the serial layer was asked and said so. -/
structure AcquireFailure (config : Config) (answer : Except SerialError Device) (e : ProbeError)
    (t : Trace) : Prop where
  isConnectionError : e.isConnectionError = true
  kind : e = .portNotFound config.port ∨ ∃ cause, e = .connectionFailed cause
  missing : e = .portNotFound config.port ↔
    config.port ≠ "" ∧
      ∃ refused, answer = .error refused ∧
        (refused.kind = .noDevice ∨ refused.kind = .io .notFound)
  openings : Trace.openings t
    = if config.port = "" then []
      else [⟨config.port, config.baud, .eight, .none, .one, .none, 1000 * config.timeoutMs⟩]
  writes : Trace.writes t = []
  timeouts : Trace.timeouts t = []
  reads : Trace.reads t = []

/-- A refusal means that there is no such port exactly for two kinds of error. -/
theorem refusal_eq_portNotFound_iff {port : String} {e : SerialError} :
    refusal port e = .portNotFound port ↔ e.kind = .noDevice ∨ e.kind = .io .notFound := by
  rw [← SerialKind.meansMissing_iff, refusal]
  split
  · next hmissing => exact ⟨fun _ => hmissing, fun _ => rfl⟩
  · next hother =>
    constructor
    · intro h
      cases h
    · exact fun hmissing => absurd hmissing hother

/-- Any other refusal means that the port could not be opened. -/
theorem refusal_cases (port : String) (e : SerialError) :
    refusal port e = .portNotFound port ∨ ∃ cause, refusal port e = .connectionFailed cause := by
  rw [refusal]
  split
  · exact Or.inl rfl
  · exact Or.inr ⟨_, rfl⟩

/-- Both errors of this phase say that the connection failed. -/
theorem isConnectionError_of_cases {port : String} {e : ProbeError}
    (h : e = .portNotFound port ∨ ∃ cause, e = .connectionFailed cause) :
    e.isConnectionError = true := by
  rcases h with rfl | ⟨cause, rfl⟩
  · rfl
  · rfl

/-- A port is not acquired for want of a name or because the serial layer refuses to open it. -/
theorem acquire_failure {config : Config} {answer : Except SerialError Device} {e : ProbeError}
    (h : (acquire config answer).1 = .error e) :
    AcquireFailure config answer e (acquire config answer).2 := by
  by_cases hport : config.port = ""
  · rw [acquire_of_unnamed hport] at h ⊢
    obtain rfl := Except.error.inj h
    refine ⟨rfl, Or.inr ⟨_, rfl⟩, ?_, (if_pos hport).symm, rfl, rfl, rfl⟩
    constructor
    · intro hmissing
      cases hmissing
    · exact fun hasked => absurd hport hasked.1
  · cases answer with
    | ok device =>
      rw [acquire_of_opened hport] at h
      cases h
    | error refused =>
      rw [acquire_of_refused hport] at h ⊢
      obtain rfl := Except.error.inj h
      have hcases := refusal_cases config.port refused
      refine ⟨isConnectionError_of_cases hcases, hcases, ?_, (if_neg hport).symm, rfl, rfl, rfl⟩
      rw [refusal_eq_portNotFound_iff]
      constructor
      · exact fun hkind => ⟨hport, refused, rfl, hkind⟩
      · rintro ⟨-, _, hsame, hkind⟩
        obtain rfl := Except.error.inj hsame
        exact hkind

end Connection

/-! ## Operations on the open port -/

namespace Device

/-- A timeout that is refused after a turn is refused in what follows the turn. -/
theorem Turn.refused_later {deadline : Nat} {b : Buffer} {d : Device}
    {armed : Answered Nat (Except SerialError Unit)}
    {answered : Answered Nat (Except IoError (List UInt8))}
    (turn : Turn deadline b d armed answered) {t : Trace} {refused : SerialError}
    (h : ∃ call ∈ Trace.timeouts (.setTimeout armed.call :: .read answered.call :: t),
      call.answer = .error refused) :
    ∃ call ∈ Trace.timeouts t, call.answer = .error refused := by
  obtain ⟨call, hcall, hrefused⟩ := h
  rcases List.mem_cons.1 hcall with rfl | hlater
  · rw [turn.accepted] at hrefused
    cases hrefused
  · exact ⟨call, hlater, hrefused⟩

/-- A refusal to set the timeout loses the reply, with the same error as an I/O error. -/
theorem Collecting.result_of_refused {deadline : Nat} {b : Buffer} {d : Device}
    {o : Outcome Device IoError (List UInt8)} (h : Collecting deadline b d o)
    {refused : SerialError}
    (hrefused : ∃ call ∈ Trace.timeouts o.trace, call.answer = .error refused) :
    o.result = .error refused.toIoError := by
  have hnone : ∀ entry, ¬ ∃ call ∈ Trace.timeouts [.log entry], call.answer = .error refused := by
    rintro entry ⟨call, hcall, -⟩
    cases hcall
  induction h with
  | full h =>
    obtain ⟨call, hcall, -⟩ := hrefused
    cases hcall
  | late hroom h => exact absurd hrefused (hnone _)
  | refused hroom htime harmed h =>
    obtain ⟨call, hcall, hcalled⟩ := hrefused
    obtain rfl := List.mem_singleton.1 hcall
    rw [h] at hcalled
    rw [Except.error.inj hcalled]
  | ended turn h => exact absurd (turn.refused_later (t := [_]) hrefused) (hnone _)
  | data turn h hne fits rest ih => exact ih (turn.refused_later (t := _ :: _) hrefused)
  | timedOut turn h hkind => exact absurd (turn.refused_later (t := [_]) hrefused) (hnone _)
  | interrupted turn h hkind again ih => exact ih (turn.refused_later hrefused)
  | failed turn h htimedOut hinterrupted =>
    obtain ⟨call, hcall, -⟩ := turn.refused_later (t := []) hrefused
    cases hcall

end Device

namespace Connection

variable (frame : List UInt8) (c : Connection)

/-- Sending fails with an I/O error. -/
theorem io_of_send_error {e : ProbeError} (h : (c.send frame).result = .error e) :
    ∃ error, e = .io error := by
  cases hwritten : (c.device.writeAll frame).result with
  | ok u =>
    rw [send_of_written hwritten] at h
    cases h
  | error error =>
    rw [send_of_unwritten hwritten] at h
    exact ⟨error, (Except.error.inj h).symm⟩

/-- Reading a reply fails with an I/O error. -/
theorem io_of_readReply_error {e : ProbeError} (h : c.readReply.result = .error e) :
    ∃ error, e = .io error := by
  cases hcollected : c.collected.result with
  | ok bytes =>
    rw [readReply_of_collected hcollected] at h
    cases h
  | error error =>
    rw [readReply_of_lost hcollected] at h
    exact ⟨error, (Except.error.inj h).symm⟩

/-- An exchange fails with an I/O error. -/
theorem io_of_exchange_error {e : ProbeError} (h : (c.exchange frame).result = .error e) :
    ∃ error, e = .io error := by
  cases hsend : (c.send frame).result with
  | ok u =>
    rw [exchange_of_send_ok hsend] at h
    exact io_of_readReply_error _ h
  | error e' =>
    rw [exchange_of_send_error hsend] at h
    obtain rfl := Except.error.inj h
    exact io_of_send_error frame c hsend

variable {frame c} {refused : SerialError}

/-- A reply is lost with the error with which the timeout is refused. -/
theorem readReply_of_refused
    (h : ∃ call ∈ Trace.timeouts c.readReply.trace, call.answer = .error refused) :
    c.readReply.result = .error (.io refused.toIoError) := by
  rw [trace_readReply] at h
  have hlost : c.collected.result = .error refused.toIoError :=
    (Device.collect_collecting _ _ _).result_of_refused h
  rw [readReply_of_lost hlost]

/-- An exchange fails with the error with which the timeout is refused. -/
theorem exchange_of_refused
    (h : ∃ call ∈ Trace.timeouts (c.exchange frame).trace, call.answer = .error refused) :
    (c.exchange frame).result = .error (.io refused.toIoError) := by
  cases hsend : (c.send frame).result with
  | ok u =>
    rw [exchange_of_send_ok hsend] at h ⊢
    rw [Outcome.after_trace, Trace.timeouts_append, timeouts_trace_send, List.nil_append] at h
    exact readReply_of_refused h
  | error e =>
    -- A frame that is not written sets no timeout at all.
    rw [exchange_of_send_error hsend, timeouts_trace_send] at h
    obtain ⟨call, hcall, -⟩ := h
    cases hcall

end Connection

/-! ## Decoding -/

/-- Checks that are not passed reject a value with a fault of the reply. -/
theorem Check.invalidReply_of_verdict {α : Type} {checks : List Check} {value : α} {e : ProbeError}
    (h : verdict checks value = .error e) : ∃ fault, e = .invalidReply fault := by
  obtain ⟨fault, -, rfl⟩ := verdict_eq_error_iff.1 h
  exact ⟨fault, rfl⟩

/-- Bytes that are not decoded have a fault, as an event, as return parameters, or as a reply to the
version query. -/
theorem invalidReply_of_decoding {bytes : List UInt8} {e : ProbeError}
    (h : Event.parse bytes = .error e ∨ LocalVersion.ofReturnParams bytes = .error e ∨
      LocalVersion.decode bytes = .error e) : ∃ fault, e = .invalidReply fault := by
  rcases h with h | h | h
  · rw [Event.parse_eq] at h
    exact Check.invalidReply_of_verdict h
  · rw [LocalVersion.ofReturnParams_eq] at h
    exact Check.invalidReply_of_verdict h
  · rw [LocalVersion.decode_eq] at h
    exact Check.invalidReply_of_verdict h

/-! ## Sessions -/

namespace Session

variable {s : Session} {e : ProbeError}

/-- An action other than decoding fails with an I/O error. -/
theorem io_of_perform_error {action : Action} (hdecode : action ≠ .decode)
    (h : (s.perform action).result = .error e) : ∃ error, e = .io error := by
  cases action with
  | send frame =>
    cases hsend : (s.connection.send frame).result with
    | ok u =>
      rw [perform, hsend] at h
      cases h
    | error e' =>
      rw [perform, hsend] at h
      obtain rfl : e' = e := Except.error.inj h
      exact s.connection.io_of_send_error frame hsend
  | read => exact s.connection.io_of_readReply_error (afterReading_result_eq_error.1 h)
  | exchange frame =>
    exact s.connection.io_of_exchange_error frame (afterReading_result_eq_error.1 h)
  | decode => exact absurd rfl hdecode
  | feed supply => cases h

/-- An action during which the device refuses a timeout fails with the same error as an I/O
error. -/
theorem perform_of_refused {action : Action} {refused : SerialError}
    (h : ∃ call ∈ Trace.timeouts (s.perform action).trace, call.answer = .error refused) :
    (s.perform action).result = .error (.io refused.toIoError) := by
  cases action with
  | send frame =>
    obtain ⟨call, hcall, -⟩ := h
    rw [perform, Connection.timeouts_trace_send] at hcall
    cases hcall
  | read =>
    rw [perform, afterReading_trace] at h
    exact afterReading_result_eq_error.2 (Connection.readReply_of_refused h)
  | exchange frame =>
    rw [perform, afterReading_trace] at h
    exact afterReading_result_eq_error.2 (Connection.exchange_of_refused h)
  | decode =>
    obtain ⟨call, hcall, -⟩ := h
    cases hcall
  | feed supply =>
    obtain ⟨call, hcall, -⟩ := h
    cases hcall

/-- **An error tells in which phase the probe failed.**  If a port is not acquired, the error is one
of the two that say so, nothing but the opening of the port was asked of the device, and even that
only if a port was named; there being no such port is the error exactly if the serial layer was
asked and answered with one of the two kinds that mean this.  Whatever was done over an open port
before, an operation on it that fails does so with an I/O error, also where the serial layer refuses
a timeout with the very error for which it may refuse to open a port.  Bytes that are not decoded
have a fault.  Neither of these is an error of the first phase. -/
theorem error_tells_phase (config : Config) :
    (∀ answer e, (Connection.acquire config answer).1 = .error e →
        Connection.AcquireFailure config answer e (Connection.acquire config answer).2) ∧
      (∀ device earlier action e, action ≠ .decode →
        ((final earlier (start config device)).perform action).result = .error e →
        (∃ error, e = .io error) ∧ e.isConnectionError = false) ∧
      (∀ device earlier action refused,
        (∃ call ∈ Trace.timeouts ((final earlier (start config device)).perform action).trace,
          call.answer = .error refused) →
        ((final earlier (start config device)).perform action).result
          = .error (.io refused.toIoError)) ∧
      (∀ bytes e, Event.parse bytes = .error e ∨ LocalVersion.ofReturnParams bytes = .error e ∨
          LocalVersion.decode bytes = .error e →
        (∃ fault, e = .invalidReply fault) ∧ e.isConnectionError = false) := by
  refine ⟨fun answer e h => Connection.acquire_failure h, ?_, ?_, ?_⟩
  · intro device earlier action e hdecode h
    obtain ⟨error, rfl⟩ := io_of_perform_error hdecode h
    exact ⟨⟨error, rfl⟩, rfl⟩
  · exact fun device earlier action refused h => perform_of_refused h
  · intro bytes e h
    obtain ⟨fault, rfl⟩ := invalidReply_of_decoding h
    exact ⟨⟨fault, rfl⟩, rfl⟩

/-- What the serial layer says of a device that was unplugged. -/
def unplugged : SerialError :=
  ⟨.noDevice, "device unplugged"⟩

/-- The same error of the serial layer is a missing port where it refuses to open the port, and an
I/O error where it refuses a timeout; an empty reply has a fault. -/
theorem error_unplugged :
    (∃ e, (Connection.acquire (.forPort "COM3") (.error unplugged)).1 = .error e ∧
        e = .portNotFound "COM3" ∧ e.isConnectionError = true) ∧
      ((start (.forPort "COM3") ⟨0, [], [], [⟨0, .error unplugged⟩]⟩).perform .read).result
        = .error (.io ⟨.notFound, "device unplugged"⟩) ∧
      (∃ e, LocalVersion.decode [] = .error e ∧ e.isConnectionError = false) ∧
      ∃ e, ((start (.forPort "COM3") ⟨0, [], [], [⟨0, .error unplugged⟩]⟩).perform .read).result
        = .error e ∧ e.isConnectionError = false := by
  obtain ⟨hacquire, hperform, hrefused, hdecode⟩ := error_tells_phase (.forPort "COM3")
  have hanswers : (Trace.timeouts ((start (.forPort "COM3")
      ⟨0, [], [], [⟨0, .error unplugged⟩]⟩).perform .read).trace).map Call.answer
        = [.error unplugged] := by cbv
  have hread := hrefused ⟨0, [], [], [⟨0, .error unplugged⟩]⟩ [] .read unplugged
    (List.mem_map.1 (List.mem_of_mem_head? (congrArg List.head? hanswers)))
  refine ⟨?_, hread, ?_, ?_⟩
  · have hnamed : (Config.forPort "COM3").port ≠ "" := by decide
    have herror := Connection.acquire_of_refused hnamed unplugged
    have hfailure := hacquire (.error unplugged) _ (congrArg Prod.fst herror)
    refine ⟨_, congrArg Prod.fst herror, ?_, hfailure.isConnectionError⟩
    exact hfailure.missing.2 ⟨by decide, unplugged, rfl, Or.inl rfl⟩
  · exact ⟨.invalidReply .emptyReply, rfl, (hdecode [] _ (Or.inr (Or.inr rfl))).2⟩
  · have hnot : Action.read ≠ .decode := by
      intro h
      cases h
    exact ⟨_, hread, (hperform _ [] .read _ hnot hread).2⟩

end Session

end VersionProbe
