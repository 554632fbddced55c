/-
# What the log says of a reply

While a reply is read, each read that brings bytes puts them into the log, and a reply that ends
before it has enough bytes has one more line, the last one, on why it ends.  Nothing else is logged:
a turn that lets the reading go on leaves the line on its bytes, or none if it was interrupted, and
only the turn that ends the reply names a cause.  A reply that is lost leaves the lines on the bytes
that are lost with it.

* `Trace.Noted.listed` : the bytes of each read can be read back from its line.
* `Reported.after` : what the turns before have to leave in the log.
* `Collecting.reported` : the invariant of the loop.
* `Cause.Ends.unique` : a reply does not end for two causes.
* `readReply_tells` : what follows for the reading of a reply.
-/
import VersionProbe.Proofs.CallBounds
import VersionProbe.Proofs.Endings
import VersionProbe.Proofs.Wording

namespace VersionProbe

/-! ## Lines on bytes -/

namespace Trace

/-- The bytes that each read call brought, for those that brought some. -/
def chunks (t : Trace) : List (List UInt8) :=
  ((reads t).filter hasArrived).map arrived

/-- The chunks of two traces, one after the other. -/
theorem chunks_append (s t : Trace) : chunks (s ++ t) = chunks s ++ chunks t := by
  unfold chunks
  rw [reads_append, List.filter_append, List.map_append]

/-- The chunks together are all bytes that were delivered. -/
theorem flatten_chunks (t : Trace) : (chunks t).flatten = delivered t := by
  unfold chunks delivered
  induction reads t with
  | nil => rfl
  | cons call rest ih =>
    rw [List.flatMap_cons, ← ih, List.filter_cons]
    cases hcall : hasArrived call with
    | true => rfl
    | false =>
      have hnothing : arrived call = [] := by
        rw [hasArrived, Bool.not_eq_false'] at hcall
        exact List.isEmpty_iff.1 hcall
      rw [hnothing]
      rfl

/-- `Noted t` says that the log of a trace has one entry for each read call that brought bytes, with
these bytes and in this order, and no other entry. -/
def Noted (t : Trace) : Prop :=
  log t = (chunks t).map .received

/-- What is noted in two traces is noted in both together. -/
theorem Noted.append {s t : Trace} (hs : Noted s) (ht : Noted t) : Noted (s ++ t) := by
  unfold Noted at *
  rw [log_append, chunks_append, List.map_append, hs, ht]

/-- A turn whose read brings nothing needs no entry. -/
theorem noted_of_nothing (armed : Call Nat (Except SerialError Unit))
    {answered : Call Nat (Except IoError (List UInt8))} (h : arrived answered = []) :
    Noted [.setTimeout armed, .read answered] := by
  have hnone : hasArrived answered = false := by
    unfold hasArrived
    rw [h]
    rfl
  show [] = (([answered].filter hasArrived).map arrived).map LogEntry.received
  rw [List.filter_cons, hnone]
  rfl

/-- A turn whose read brings bytes needs an entry on these. -/
theorem noted_of_bytes (armed : Call Nat (Except SerialError Unit))
    {answered : Call Nat (Except IoError (List UInt8))} {bytes : List UInt8}
    (h : answered.answer = .ok bytes) (hne : bytes ≠ []) :
    Noted [.setTimeout armed, .read answered, .log (.received bytes)] := by
  show [.received bytes] = (([answered].filter hasArrived).map arrived).map LogEntry.received
  rw [List.filter_cons, hasArrived_of_bytes h hne, if_pos rfl, List.map_cons, arrived_of_ok h]
  rfl

/-- `GoesOn t` says that all read calls of a trace let the reading of a reply go on. -/
def GoesOn (t : Trace) : Prop :=
  ∀ call ∈ reads t, Turning.ofRead call.answer = .onward

/-- Where the read calls of two traces let the reading go on, all of them do. -/
theorem GoesOn.append {s t : Trace} (hs : GoesOn s) (ht : GoesOn t) : GoesOn (s ++ t) := by
  unfold GoesOn at *
  rw [reads_append]
  exact List.forall_mem_append.2 ⟨hs, ht⟩

end Trace

/-! ## Causes -/

/-- Why a reply ends before it has enough bytes. -/
inductive Cause
  /-- A read found the end of the stream. -/
  | endOfStream
  /-- A read timed out. -/
  | timedOut
  /-- The deadline was reached before another read. -/
  | deadline
deriving DecidableEq

namespace Cause

/-- The log entry that names a cause, for a reply of `filled` bytes where `limit` are wanted. -/
def entry (filled limit : Nat) : Cause → LogEntry
  | endOfStream => .endOfStream filled
  | timedOut => .readTimedOut filled limit
  | deadline => .deadlineReached filled limit

/-- `Ends due t d cause` says that a reply that is due at some time has ended for a cause, where `t` is
what was done to read it and `d` the device afterwards: a read call has ended it that is the last of
all and the first that did not let the reading go on; or the time is over, and every read call let
the reading go on. -/
def Ends (due : Nat) (t : Trace) (d : Device) : Cause → Prop
  | endOfStream => ∃ before call, t = before ++ [.read call] ∧ Trace.GoesOn before ∧
      call.answer = .ok []
  | timedOut => ∃ before call e, t = before ++ [.read call] ∧ Trace.GoesOn before ∧
      call.answer = .error e ∧ e.kind = .timedOut
  | deadline => Trace.GoesOn t ∧ due ≤ d.clock

/-- The cause for which a reply has ended after some read calls, as the last of them tells. -/
def ofReads (calls : List (Call Nat (Except IoError (List UInt8)))) : Cause :=
  match calls.getLast? with
  | none => deadline
  | some call =>
    match call.answer with
    | .ok [] => endOfStream
    | .ok (_ :: _) => deadline
    | .error e => if e.kind = .timedOut then timedOut else deadline

/-- The wording in which a cause is named. -/
def wording (filled limit : Nat) : Cause → String
  | endOfStream => "end of stream after " ++ toString filled ++ " bytes"
  | timedOut => "read timed out after " ++ toString filled ++ " of " ++ toString limit ++ " bytes"
  | deadline =>
    "read deadline reached after " ++ toString filled ++ " of " ++ toString limit ++ " bytes"

/-- The wording of a cause lists no bytes. -/
theorem listed?_wording (filled limit : Nat) (cause : Cause) :
    LogEntry.listed? (cause.wording filled limit) = none := by
  have hcount := LogEntry.not_mem_count
  have hshare : ∀ words : String, '[' ∉ words.toList →
      '[' ∉ (words ++ toString filled ++ " of " ++ toString limit ++ " bytes").toList := by
    intro words hwords
    simp only [Text.not_mem_append_iff]
    exact ⟨⟨⟨⟨hwords, hcount filled⟩, by decide⟩, hcount limit⟩, by decide⟩
  apply LogEntry.listed?_of_no_list
  cases cause with
  | endOfStream =>
    have hwords : '[' ∉ ("end of stream after " ++ toString filled).toList :=
      Text.not_mem_append_iff.2 ⟨by decide, hcount filled⟩
    exact Text.not_mem_append_iff.2 ⟨hwords, by decide⟩
  | timedOut => exact hshare "read timed out after " (by decide)
  | deadline => exact hshare "read deadline reached after " (by decide)

/-- An entry that names a cause does so in its wording. -/
theorem message_entry (filled limit : Nat) (cause : Cause) :
    (cause.entry filled limit).message = cause.wording filled limit := by
  cases cause <;> rfl

section Ends

variable {due : Nat} {s t : Trace} {d : Device} {cause cause' : Cause}

/-- Read calls that let the reading go on may come before the others. -/
theorem Ends.append (hs : Trace.GoesOn s) (h : cause.Ends due t d) :
    cause.Ends due (s ++ t) d := by
  cases cause with
  | endOfStream =>
    obtain ⟨before, call, rfl, hbefore, hanswer⟩ := h
    exact ⟨s ++ before, call, (List.append_assoc ..).symm, hs.append hbefore, hanswer⟩
  | timedOut =>
    obtain ⟨before, call, e, rfl, hbefore, hanswer, hkind⟩ := h
    exact ⟨s ++ before, call, e, (List.append_assoc ..).symm, hs.append hbefore, hanswer, hkind⟩
  | deadline => exact ⟨hs.append h.1, h.2⟩

/-- The last read call of a trace that ends with a read. -/
theorem getLast?_reads (before : Trace) (call : Call Nat (Except IoError (List UInt8))) :
    (Trace.reads (before ++ [.read call])).getLast? = some call := by
  rw [Trace.reads_append]
  exact List.getLast?_concat

/-- After read calls that let the reading go on, only the deadline can end a reply. -/
theorem ofReads_of_goesOn (h : Trace.GoesOn t) : ofReads (Trace.reads t) = deadline := by
  unfold ofReads
  cases hlast : (Trace.reads t).getLast? with
  | none => rfl
  | some call =>
    have honward := h call (List.mem_of_getLast? hlast)
    match hanswer : call.answer with
    | .ok [] =>
      rw [hanswer, Turning.ofRead_end] at honward
      cases honward
    | .ok (first :: rest) => simp only [hanswer]
    | .error e =>
      simp only [hanswer]
      rw [if_neg]
      intro hkind
      rw [hanswer, Turning.ofRead_timedOut hkind] at honward
      cases honward

/-- The cause for which a reply has ended can be told from the last read call. -/
theorem Ends.eq_ofReads (h : cause.Ends due t d) : cause = ofReads (Trace.reads t) := by
  cases cause with
  | endOfStream =>
    obtain ⟨before, call, rfl, -, hanswer⟩ := h
    simp only [ofReads, getLast?_reads, hanswer]
  | timedOut =>
    obtain ⟨before, call, e, rfl, -, hanswer, hkind⟩ := h
    simp only [ofReads, getLast?_reads, hanswer, if_pos hkind]
  | deadline => exact (ofReads_of_goesOn h.1).symm

/-- A reply does not end for two causes. -/
theorem Ends.unique (h : cause.Ends due t d) (h' : cause'.Ends due t d) : cause = cause' :=
  h.eq_ofReads.trans h'.eq_ofReads.symm

end Ends

end Cause

namespace LogEntry

/-- Whether an entry names a cause for the end of a reply. -/
def namesCause : LogEntry → Bool
  | endOfStream _ => true
  | readTimedOut _ _ => true
  | deadlineReached _ _ => true
  | _ => false

/-- An entry that is made for a cause names a cause. -/
theorem namesCause_entry (filled limit : Nat) (cause : Cause) :
    (cause.entry filled limit).namesCause = true := by
  cases cause <;> rfl

/-- An entry that is made for a cause is for someone who looks for a fault. -/
theorem level_entry (filled limit : Nat) (cause : Cause) :
    (cause.entry filled limit).level = .debug := by
  cases cause <;> rfl

/-- An entry that is made for a cause says of no bytes that they were read. -/
theorem receivedBytes_entry (filled limit : Nat) (cause : Cause) :
    (cause.entry filled limit).receivedBytes = [] := by
  cases cause <;> rfl

end LogEntry

namespace Trace.Noted

variable {t : Trace} (h : Noted t)

include h

/-- What is noted is for someone who looks for a fault. -/
theorem level : ∀ entry ∈ log t, entry.level = .debug := by
  rw [h]
  intro entry hentry
  obtain ⟨bytes, -, rfl⟩ := List.mem_map.1 hentry
  rfl

/-- What is noted are the bytes that were delivered. -/
theorem receivedBytes : (log t).flatMap LogEntry.receivedBytes = delivered t := by
  rw [h, List.flatMap_map, ← flatten_chunks]
  exact List.flatMap_id

/-- What is noted names no cause. -/
theorem namesCause : (log t).countP LogEntry.namesCause = 0 := by
  rw [h, List.countP_map]
  exact List.countP_eq_zero.2 fun bytes _ => Bool.false_ne_true

/-- What is noted is worded line by line. -/
theorem messages : (log t).map LogEntry.message = (chunks t).map (LogEntry.wordingOn "read ") := by
  rw [h, List.map_map]
  exact List.map_congr_left fun bytes _ => LogEntry.message_received bytes

/-- What the lines list is read back, chunk by chunk. -/
theorem listed : ((log t).map LogEntry.message).filterMap LogEntry.listed? = chunks t := by
  rw [h.messages, List.filterMap_map]
  have hread : LogEntry.listed? ∘ LogEntry.wordingOn "read " = some := by
    funext bytes
    exact LogEntry.listed?_wordingOn (by decide) bytes
  rw [hread, List.filterMap_some]

end Trace.Noted

/-! ## The loop -/

namespace Device

/-- `Reported limit deadline o` says of the collecting of a reply of `limit` bytes that came to `o`
that its log is made up of entries on bytes and, if there are too few of them for a reply that is
not lost, a last entry on the cause for which the reply has ended. -/
def Reported (limit deadline : Nat) (o : Outcome Device IoError (List UInt8)) : Prop :=
  match o.result with
  | .error _ => Trace.Noted o.trace
  | .ok bytes =>
    (bytes.length = limit ∧ Trace.Noted o.trace) ∨
      (bytes.length < limit ∧ ∃ t cause, o.trace = t ++ [.log (cause.entry bytes.length limit)] ∧
        Trace.Noted t ∧ Cause.Ends deadline t o.state cause)

section Collecting

variable {limit deadline : Nat} {b : Buffer} {d : Device}
  {o : Outcome Device IoError (List UInt8)}

/-- What is noted before, while the reading goes on, may come first. -/
theorem Reported.after {s : Trace} (hnoted : Trace.Noted s) (hs : Trace.GoesOn s)
    (h : Reported limit deadline o) : Reported limit deadline (o.after s) := by
  obtain ⟨result, state, trace⟩ := o
  cases result with
  | error e => exact hnoted.append h
  | ok bytes =>
    rcases h with ⟨hfull, htrace⟩ | ⟨hshort, t, cause, rfl, ht, hends⟩
    · exact Or.inl ⟨hfull, hnoted.append htrace⟩
    · refine Or.inr ⟨hshort, s ++ t, cause, ?_, hnoted.append ht, hends.append hs⟩
      exact (List.append_assoc ..).symm

/-- The invariant of the loop: what is collected is reported. -/
theorem Collecting.reported (h : Collecting deadline b d o) : Reported b.size deadline o := by
  induction h with
  | @full b d h =>
    left
    refine ⟨?_, rfl⟩
    rw [b.length_content]
    exact Nat.le_antisymm b.filled_le_size h
  | @late b d hroom h =>
    right
    rw [b.length_content]
    exact ⟨hroom, [], .deadline, rfl, rfl, List.forall_mem_nil _, h⟩
  | refused hroom htime harmed h => exact rfl
  | @ended b d armed answered turn h =>
    right
    rw [b.length_content]
    refine ⟨turn.room, [.setTimeout armed.call, .read answered.call], .endOfStream, rfl, ?_, ?_⟩
    · exact Trace.noted_of_nothing _ (Trace.arrived_of_ok h)
    · exact ⟨[.setTimeout armed.call], answered.call, rfl, List.forall_mem_nil _, h⟩
  | @data b d armed answered bytes o turn h hne fits rest ih =>
    rw [Buffer.size_store] at ih
    refine ih.after (Trace.noted_of_bytes _ h hne) (List.forall_mem_singleton.2 ?_)
    rw [h, Turning.ofRead_bytes hne]
  | @timedOut b d armed answered e turn h hkind =>
    right
    rw [b.length_content]
    refine ⟨turn.room, [.setTimeout armed.call, .read answered.call], .timedOut, rfl, ?_, ?_⟩
    · exact Trace.noted_of_nothing _ (Trace.arrived_of_error h)
    · exact ⟨[.setTimeout armed.call], answered.call, e, rfl, List.forall_mem_nil _, h, hkind⟩
  | interrupted turn h hkind again ih =>
    refine ih.after (Trace.noted_of_nothing _ (Trace.arrived_of_error h))
      (List.forall_mem_singleton.2 ?_)
    rw [h, Turning.ofRead_interrupted hkind]
  | failed turn h htimedOut hinterrupted =>
    exact Trace.noted_of_nothing _ (Trace.arrived_of_error h)

end Collecting

end Device

/-! ## Connections -/

namespace Connection

/-- `Tells c o` says what the log of the reading of a reply over `c` that came to `o` tells of it. -/
structure Tells (c : Connection) (o : Outcome Connection ProbeError Reply) : Prop where
  /-- All of it is for someone who looks for a fault. -/
  level : ∀ entry ∈ Trace.log o.trace, entry.level = .debug
  /-- The bytes that it says were read are those that were delivered, in order. -/
  delivered : (Trace.log o.trace).flatMap LogEntry.receivedBytes = Trace.delivered o.trace
  /-- The lists of bytes in its lines, read back, are what each read brought that brought bytes, in
  order; so together they are the bytes that were delivered. -/
  listed : ((Trace.log o.trace).map LogEntry.message).filterMap LogEntry.listed?
      = Trace.chunks o.trace ∧
    (Trace.chunks o.trace).flatten = Trace.delivered o.trace
  /-- One line names a cause if the reply is too short, and none if it is not. -/
  causes : ∀ r, o.result = .ok r → (Trace.log o.trace).countP LogEntry.namesCause
    = if r.length < c.config.maxReply then 1 else 0
  /-- For a reply of as many bytes as are wanted, there are the lines on the bytes of each read. -/
  of_full : ∀ r, o.result = .ok r → r.length = c.config.maxReply →
    Trace.log o.trace = (Trace.chunks o.trace).map .received ∧
      (Trace.log o.trace).map LogEntry.message
        = (Trace.chunks o.trace).map (LogEntry.wordingOn "read ")
  /-- For a shorter reply there is one more line, after everything else that is done: how many bytes
  the reply has, and why, which is the one cause for which it has ended. -/
  of_short : ∀ r, o.result = .ok r → r.length < c.config.maxReply →
    ∃ t cause, o.trace = t ++ [.log (cause.entry r.length c.config.maxReply)] ∧
      (∀ cause', Cause.Ends (c.device.clock + 1000 * c.config.timeoutMs) t o.state.device cause' ↔
        cause' = cause) ∧
        Trace.log o.trace
          = (Trace.chunks o.trace).map .received ++ [cause.entry r.length c.config.maxReply] ∧
        (Trace.log o.trace).map LogEntry.message
          = (Trace.chunks o.trace).map (LogEntry.wordingOn "read ")
            ++ [cause.wording r.length c.config.maxReply]
  /-- For a reply that is lost there are the lines on the bytes of each read, and none that names a
  cause.  These bytes are lost: they are no longer to come, and are not counted. -/
  of_lost : ∀ e, o.result = .error e →
    Trace.log o.trace = (Trace.chunks o.trace).map .received ∧
      (Trace.log o.trace).map LogEntry.message
        = (Trace.chunks o.trace).map (LogEntry.wordingOn "read ") ∧
      (Trace.log o.trace).countP LogEntry.namesCause = 0 ∧
        c.device.pending = (Trace.chunks o.trace).flatten ++ o.state.device.pending ∧
          o.state.received = c.received

section Reading

variable {c : Connection}

/-- The log tells of a reply if all that is in it is noted, and a reply is not too short. -/
theorem tells_of_noted (hnoted : Trace.Noted c.readReply.trace)
    (hfull : ∀ r, c.readReply.result = .ok r → r.length = c.config.maxReply) :
    Tells c c.readReply where
  level := hnoted.level
  delivered := hnoted.receivedBytes
  listed := ⟨hnoted.listed, Trace.flatten_chunks _⟩
  causes r hok := by
    rw [hnoted.namesCause, if_neg]
    exact Nat.not_lt.2 (Nat.le_of_eq (hfull r hok).symm)
  of_full r hok hlength := ⟨hnoted, hnoted.messages⟩
  of_short r hok hshort := absurd (hfull r hok) (Nat.ne_of_lt hshort)
  of_lost e herror := by
    refine ⟨hnoted, hnoted.messages, hnoted.namesCause, ?_, received_readReply_of_error c herror⟩
    rw [Trace.flatten_chunks]
    exact c.readReply_accounts

/-- The log tells of a reply that is too short if all that is in it is noted, save for a last entry
on the cause for which the reply has ended. -/
theorem tells_of_ended {r : Reply} (hok : c.readReply.result = .ok r)
    (hshort : r.length < c.config.maxReply) {t : Trace} {cause : Cause}
    (htrace : c.readReply.trace = t ++ [.log (cause.entry r.length c.config.maxReply)])
    (hnoted : Trace.Noted t) (hends : cause.Ends c.deadline t c.readReply.state.device) :
    Tells c c.readReply := by
  have hlog : Trace.log c.readReply.trace
      = Trace.log t ++ [cause.entry r.length c.config.maxReply] := by
    rw [htrace, Trace.log_append]
    rfl
  have hchunks : Trace.chunks c.readReply.trace = Trace.chunks t := by
    rw [htrace, Trace.chunks_append]
    exact List.append_nil _
  have hsame : ∀ r', c.readReply.result = .ok r' → r' = r := by
    intro r' hok'
    exact Except.ok.inj (hok'.symm.trans hok)
  constructor
  case level =>
    rw [hlog]
    exact List.forall_mem_append.2
      ⟨hnoted.level, List.forall_mem_singleton.2 (LogEntry.level_entry _ _ _)⟩
  case delivered =>
    rw [hlog, List.flatMap_append, hnoted.receivedBytes, List.flatMap_singleton,
      LogEntry.receivedBytes_entry, ← Trace.flatten_chunks, ← Trace.flatten_chunks, hchunks,
      List.append_nil]
  case listed =>
    refine ⟨?_, Trace.flatten_chunks _⟩
    rw [hlog, List.map_append, List.filterMap_append, hnoted.listed, hchunks, List.map_singleton,
      Cause.message_entry, List.filterMap_cons, Cause.listed?_wording, List.filterMap_nil,
      List.append_nil]
  case causes =>
    intro r' hok'
    rw [hsame r' hok', if_pos hshort, hlog, List.countP_append, hnoted.namesCause,
      List.countP_singleton, LogEntry.namesCause_entry]
    rfl
  case of_full =>
    intro r' hok' hfull
    rw [hsame r' hok'] at hfull
    exact absurd hfull (Nat.ne_of_lt hshort)
  case of_short =>
    intro r' hok' hshort'
    rw [hsame r' hok']
    refine ⟨t, cause, htrace, fun cause' => ⟨fun hends' => hends'.unique hends, ?_⟩, ?_, ?_⟩
    · rintro rfl
      exact hends
    · rw [hlog, hnoted, hchunks]
    · rw [hlog, List.map_append, hnoted.messages, hchunks, List.map_singleton, Cause.message_entry]
  case of_lost =>
    intro e herror
    rw [hok] at herror
    cases herror

end Reading

/-- **The log of a reply tells what happened.**  Over any connection, the log of the reading of a
reply has one line for each read that brought bytes, with their number and the digits of each, in
order; the bytes can be read back from these lines, and are those that were delivered.  If there is
a reply, and it is shorter than is wanted, there is one more line, the last one: it has the number
of bytes of the reply, and names the cause for which the reply has ended, a read that found the end
of the stream or timed out, or the deadline.  If the reply is as long as is wanted, or is lost, no
line names a cause; the bytes of a reply that is lost are all in the log. -/
theorem readReply_tells (c : Connection) : Tells c c.readReply := by
  have hreported :=
    (Device.collect_collecting c.deadline (.blank c.config.maxReply) c.device).reported
  rw [Buffer.size_blank, ← collected, Device.Reported] at hreported
  cases hres : c.collected.result with
  | error e =>
    rw [hres] at hreported
    rw [← trace_readReply] at hreported
    apply tells_of_noted hreported
    intro r hok
    rw [readReply_of_lost hres] at hok
    cases hok
  | ok bytes =>
    rw [hres] at hreported
    have hok : c.readReply.result = .ok ⟨bytes⟩ := by rw [readReply_of_collected hres]
    rcases hreported with ⟨hfull, hnoted⟩ | ⟨hshort, t, cause, htrace, hnoted, hends⟩
    · rw [← trace_readReply] at hnoted
      apply tells_of_noted hnoted
      intro r hok'
      rw [← Except.ok.inj (hok.symm.trans hok')]
      exact hfull
    · rw [← trace_readReply] at htrace
      rw [← device_readReply] at hends
      exact tells_of_ended hok hshort htrace hnoted hends

/-- A reply that an interruption keeps waiting until the deadline is reported to have ended then. -/
example :
    let c := ofDevice ⟨"", 115200, 1, 4⟩
      ⟨0, [⟨300, .ok [0x01, 0xAF]⟩, ⟨900, .error (.ofKind .interrupted)⟩, ⟨0, .ok [0x03]⟩], [], []⟩
    (Trace.log c.readReply.trace).map LogEntry.message
      = ["read 2 bytes: [01, af]", "read deadline reached after 2 of 4 bytes"] := by
  decide +kernel

end Connection

end VersionProbe
