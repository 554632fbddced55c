/-
# What the counters add up to

The counter of sent bytes adds up the frames that the device took as a whole, also those of an
exchange whose reply was lost, and the counter of received bytes adds up the replies.  What the
device took or delivered beyond that belongs to writings and readings that failed.

* `sent_perform_eq`, `received_perform_eq` : what one action adds to the counters.
* `abandoned_eq_stranded` : bytes are left uncounted exactly where a write call ends the writing.
* `counters_add_up` : the counters and the gaps between them and the device's own totals, after any
  number of actions.
-/
import Mathlib
import VersionProbe.Proofs.Counters
import VersionProbe.Proofs.Phases

namespace VersionProbe

/-! ## Frames taken as a whole -/

namespace Connection

variable (frame : List UInt8) (c : Connection)

/-- The device takes the whole of a frame exactly where no write call ends the writing. -/
theorem written_send_eq_iff :
    Trace.written (c.send frame).trace = frame ↔
      ∀ call ∈ Trace.writes (c.send frame).trace, Trace.fault? call = none := by
  rw [← send_eq_ok_iff]
  constructor
  · intro hsend
    rw [writes_trace_send]
    refine (c.device.writeAll_writing frame).no_fault ?_
    cases hres : (c.device.writeAll frame).result with
    | ok u => rfl
    | error e =>
      rw [send_of_unwritten hres] at hsend
      cases hsend
  · intro hnone
    cases hsend : (c.send frame).result with
    | ok u => rfl
    | error e =>
      -- The last call of a writing that fails is one that ends it.
      obtain ⟨calls, last, error, hcalls, -, hlast, -⟩ := send_ends_in_fault hsend
      have hmem : last ∈ Trace.writes (c.send frame).trace := by
        rw [hcalls]
        exact List.mem_append_right _ List.mem_cons_self
      rw [hnone last hmem] at hlast
      cases hlast

end Connection

/-- The frame that an action sends, if it sends one. -/
def Action.frame? : Action → Option (List UInt8)
  | .send frame => some frame
  | .exchange frame => some frame
  | _ => none

/-- The frame of an action that sends one. -/
theorem Action.frame_of_frame? {action : Action} {frame : List UInt8}
    (h : action.frame? = some frame) : action.frame = frame := by
  cases action <;> cases h <;> rfl

namespace Session

/-- The frame that an action sends, if it sends one and the device took the whole of it. -/
def wholeFrame? (action : Action) (o : Outcome Session ProbeError Answer) : Option (List UInt8) :=
  action.frame?.filter fun frame => Trace.written o.trace = frame

/-- The frames in a list of actions that the device took as a whole, from first to last. -/
def wholeFrames : List Action → Session → List (List UInt8)
  | [], _ => []
  | action :: rest, s =>
    (wholeFrame? action (s.perform action)).toList ++ wholeFrames rest (s.perform action).state

/-- The bytes that the device took during an action in which a write call ended the writing. -/
def abandoned (o : Outcome Session ProbeError Answer) : List UInt8 :=
  if ∀ call ∈ Trace.writes o.trace, Trace.fault? call = none then [] else Trace.written o.trace

section Sending

variable (action : Action) (s : Session)

/-- An action that sends no frame makes no write call. -/
theorem writes_perform_of_no_frame (h : action.frame? = none) :
    Trace.writes (s.perform action).trace = [] := by
  cases action with
  | send frame => cases h
  | read =>
    rw [perform, afterReading_trace]
    exact s.connection.writes_trace_readReply
  | exchange frame => cases h
  | decode => rfl
  | feed supply => rfl

/-- So nothing is handed to the device. -/
theorem written_perform_of_no_frame (h : action.frame? = none) :
    Trace.written (s.perform action).trace = [] := by
  rw [Trace.written, writes_perform_of_no_frame action s h, List.flatMap_nil]

/-- The device takes the whole of the frame of an action exactly where no write call ends the
writing. -/
theorem written_perform_eq_iff {frame : List UInt8} (h : action.frame? = some frame) :
    Trace.written (s.perform action).trace = frame ↔
      ∀ call ∈ Trace.writes (s.perform action).trace, Trace.fault? call = none := by
  cases action with
  | send frame =>
    obtain rfl := Option.some.inj h
    exact s.connection.written_send_eq_iff frame
  | read => cases h
  | exchange frame =>
    obtain rfl := Option.some.inj h
    rw [perform, afterReading_trace, Connection.written_exchange, Connection.writes_trace_exchange]
    exact s.connection.written_send_eq_iff frame
  | decode => cases h
  | feed supply => cases h

/-- What is stranded of a frame is what the device took of it when a write call ended the
writing. -/
theorem abandoned_eq_stranded :
    abandoned (s.perform action) = Trace.stranded action.frame (s.perform action).trace := by
  cases hframe : action.frame? with
  | none =>
    have hnone := written_perform_of_no_frame action s hframe
    rw [Trace.stranded_eq_nil_iff.2 (Or.inl hnone), abandoned, hnone, ite_self]
  | some frame =>
    rw [abandoned, Trace.stranded, Action.frame_of_frame? hframe]
    simp only [written_perform_eq_iff action s hframe]

/-- An action adds to the counter of sent bytes the frame that the device took as a whole, if there
is one. -/
theorem sent_perform_eq :
    (s.perform action).state.connection.sent
      = s.connection.sent + ((wholeFrame? action (s.perform action)).getD []).length := by
  have hstep := sent_perform action s
  cases hframe : action.frame? with
  | none =>
    have hnone := written_perform_of_no_frame action s hframe
    rw [Trace.stranded_eq_nil_iff.2 (Or.inl hnone), hnone] at hstep
    rw [wholeFrame?, hframe]
    exact hstep
  | some frame =>
    rw [Action.frame_of_frame? hframe] at hstep
    rw [wholeFrame?, hframe, Option.filter_some]
    by_cases hwhole : Trace.written (s.perform action).trace = frame
    · rw [Trace.stranded_of_whole hwhole, hwhole] at hstep
      rw [if_pos (decide_eq_true hwhole)]
      exact hstep
    · rw [Trace.stranded_of_not_whole hwhole] at hstep
      rw [if_neg (by simp [hwhole])]
      exact Nat.add_right_cancel hstep

end Sending

/-! ## Replies -/

/-- The reply that an action gets, if it reads one. -/
def reply? (o : Outcome Session ProbeError Answer) : Option Reply :=
  match o.result with
  | .ok (.reply r) => some r
  | _ => none

/-- The replies that a list of actions gets, from first to last. -/
def replies (actions : List Action) (s : Session) : List Reply :=
  (run actions s).filterMap reply?

/-- An action that gets another answer than a reply has no bytes delivered to it. -/
theorem delivered_perform_of_no_reply {action : Action} {s : Session} {a : Answer}
    (h : (s.perform action).result = .ok a) (hno : reply? (s.perform action) = none) :
    Trace.delivered (s.perform action).trace = [] := by
  have hreads : ∀ o : Outcome Connection ProbeError Reply, (afterReading o).result = .ok a →
      reply? (afterReading o) ≠ none := by
    intro o ho
    rw [reply?, afterReading_result]
    rw [afterReading_result] at ho
    cases hres : o.result with
    | ok r => simp [Except.map]
    | error e =>
      rw [hres] at ho
      cases ho
  cases action with
  | send frame => exact s.connection.delivered_send frame
  | read => exact absurd hno (hreads _ h)
  | exchange frame => exact absurd hno (hreads _ h)
  | decode => rfl
  | feed supply => rfl

/-- An action adds to the counter of received bytes the reply that it gets, if there is one. -/
theorem received_perform_eq (action : Action) (s : Session) :
    (s.perform action).state.connection.received
      = s.connection.received + ((reply? (s.perform action)).map Reply.length).getD 0 := by
  have hbalance := balanced_perform action s
  unfold Balanced at hbalance
  cases hres : (s.perform action).result with
  | error e =>
    -- What was delivered to an action that fails is lost.
    have hlost : lost (s.perform action) = Trace.delivered (s.perform action).trace := by
      rw [lost, hres]
    rw [hlost] at hbalance
    rw [reply?, hres]
    exact Nat.add_right_cancel hbalance
  | ok a =>
    have hkept : lost (s.perform action) = [] := by rw [lost, hres]
    rw [hkept] at hbalance
    cases hreply : reply? (s.perform action) with
    | none =>
      rw [delivered_perform_of_no_reply hres hreply] at hbalance
      exact hbalance
    | some r =>
      have hanswer : (s.perform action).result = .ok (.reply r) := by
        rw [hres]
        rw [reply?, hres] at hreply
        cases a with
        | done => cases hreply
        | reply r' => rw [Option.some.inj hreply]
        | version v => cases hreply
      rw [← (reply_perform action s hanswer).1] at hbalance
      exact hbalance

/-! ## Whole sessions -/

section Run

variable (actions : List Action) (s : Session)

/-- The counter of sent bytes adds up the frames that are taken as a whole. -/
theorem sent_final_eq :
    (final actions s).connection.sent
      = s.connection.sent + ((wholeFrames actions s).map List.length).sum := by
  induction actions generalizing s with
  | nil => rfl
  | cons action rest ih =>
    rw [final_cons, ih, sent_perform_eq, wholeFrames, List.map_append, List.sum_append,
      ← Nat.add_assoc]
    congr 2
    cases wholeFrame? action (s.perform action) with
    | none => rfl
    | some frame => rfl

/-- The counter of received bytes adds up the replies. -/
theorem received_final_eq :
    (final actions s).connection.received
      = s.connection.received + ((replies actions s).map Reply.length).sum := by
  induction actions generalizing s with
  | nil => rfl
  | cons action rest ih =>
    rw [final_cons, ih, received_perform_eq, replies, replies, run, List.filterMap_cons]
    cases reply? (s.perform action) with
    | none => rfl
    | some r => exact Nat.add_assoc _ _ _

/-- The bytes left behind by writings that failed are those that are stranded. -/
theorem flatMap_abandoned : (run actions s).flatMap abandoned = stranded actions s := by
  induction actions generalizing s with
  | nil => rfl
  | cons action rest ih => rw [run, List.flatMap_cons, ih, abandoned_eq_stranded, stranded]

end Run

/-- The closing entry of the log as a line. -/
theorem text_closing (c : Connection) :
    c.closing.text
      = "INFO closing serial port port=" ++ c.config.port ++ " tx=" ++ toString c.sent
          ++ " rx=" ++ toString c.received := by
  have hhead : c.closing.level.name ++ " " ++ c.closing.message = "INFO closing serial port" := rfl
  have hfields : c.closing.fieldText
      = (" port=" ++ c.config.port) ++ ((" tx=" ++ toString c.sent)
          ++ (" rx=" ++ toString c.received)) := by
    show String.join [" port=" ++ c.config.port, " tx=" ++ toString c.sent,
      " rx=" ++ toString c.received] = _
    rw [String.join_cons, String.join_cons, String.join_cons, String.join_nil, String.append_empty]
  rw [LogEntry.text, hhead, hfields]
  simp only [← String.append_assoc]
  rfl

/-- **What the counters count.**  In a session over any device and under any settings, after any
number of actions, the counter of sent bytes is the sum of the lengths of the frames that the device
took as a whole, and the counter of received bytes that of the replies.  Neither ever decreases, and
the closing entry of the log reports both.  The bytes taken beyond those counted are the ones taken
during actions in which a write call ended the writing, and the bytes delivered beyond those counted
are the ones delivered to actions that failed. -/
theorem counters_add_up (config : Config) (device : Device) (actions : List Action) :
    let s := start config device
    let c := (final actions s).connection
    let sent := ((wholeFrames actions s).map List.length).sum
    let received := ((replies actions s).map Reply.length).sum
    (c.sent = sent ∧ c.received = received) ∧
      (∀ later, c.sent ≤ (final (actions ++ later) s).connection.sent ∧
        c.received ≤ (final (actions ++ later) s).connection.received) ∧
      c.closing.text
        = "INFO closing serial port port=" ++ config.port ++ " tx=" ++ toString sent
            ++ " rx=" ++ toString received ∧
      c.sent + ((run actions s).flatMap abandoned).length
        = (Trace.written (trace actions s)).length ∧
      c.received + ((run actions s).flatMap lost).length
        = (Trace.delivered (trace actions s)).length := by
  intro s c sent received
  have hsent : c.sent = sent := (sent_final_eq actions s).trans (Nat.zero_add _)
  have hreceived : c.received = received := (received_final_eq actions s).trans (Nat.zero_add _)
  refine ⟨⟨hsent, hreceived⟩, ?_, ?_, ?_, ?_⟩
  · intro later
    have hfinal : final (actions ++ later) s = final later (final actions s) :=
      List.foldl_append
    rw [hfinal, sent_final_eq later, received_final_eq later]
    exact ⟨Nat.le_add_right _ _, Nat.le_add_right _ _⟩
  · have hsettings : c.config = config := config_final actions s
    rw [text_closing, hsent, hreceived, hsettings]
  · rw [flatMap_abandoned]
    exact (sent_final actions s).trans (Nat.zero_add _)
  · exact (received_final actions s).trans (Nat.zero_add _)

/-- An exchange whose reply is lost counts its frame and nothing else. -/
example :
    let s := start ⟨"COM3", 115200, 1, 4⟩
      ⟨0, [⟨0, .ok [1, 2]⟩, ⟨0, .error (.ofKind .brokenPipe)⟩], [⟨0, .ok (some 2)⟩], []⟩
    let c := (final [.exchange [5, 6, 7]] s).connection
    c.sent = 3 ∧ c.received = 0 := by
  decide +kernel

end Session

end VersionProbe
