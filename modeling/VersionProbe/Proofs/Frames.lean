/-
# Frames on their way out

A frame is handed to the device piece by piece, from its front.  Whatever the device has taken of
it when the writing ends is a beginning of the frame, and it is the whole of it exactly when the
writing succeeds.  A connection counts a frame once it is written as a whole.  The bytes that were
taken of a frame whose writing fails are never counted, so the counter of sent bytes falls short of
the bytes taken by exactly those.

* `Writing.exists_written_append` : the invariant of the loop.
* `Writing.result_of_getsOn` : a frame is written as a whole if every write gets on.
* `sent_final` : counted and stranded bytes together are the bytes taken.
* `sent_eq_written_iff` : the counter is the number of bytes taken throughout a session exactly when
  no frame in it is taken in part.
-/
import Mathlib.Data.List.Basic
import VersionProbe.Session

namespace VersionProbe

/-! ## Writing a frame -/

/-- A write gets on if it takes at least one byte or is interrupted. -/
def WriteStep.GetsOn (step : WriteStep) : Prop :=
  match step.answer with
  | .ok quota => quota ≠ some 0
  | .error e => e.kind = .interrupted

namespace Device

section Writing

variable {frame : List UInt8} {d : Device} {o : Outcome Device IoError Unit}

/-- The bytes taken by a write call come before those taken later. -/
theorem written_after (call : Call (List UInt8) (Except IoError Nat)) :
    Trace.written (o.after [.write call]).trace
      = Trace.accepted call ++ Trace.written o.trace := rfl

/-- What the device has taken when the writing of a frame ends, and some rest, make up the frame;
nothing is left exactly when the writing succeeds. -/
theorem Writing.exists_written_append (h : Writing frame d o) :
    ∃ rest, frame = Trace.written o.trace ++ rest ∧ (o.result = .ok () ↔ rest = []) := by
  induction h with
  | done d => exact ⟨[], rfl, by simp⟩
  | @stuck frame d hne h =>
    have hnone : Trace.accepted (d.write frame).call = [] := by
      rw [Trace.accepted_of_ok h, List.take_zero]
    refine ⟨frame, ?_, by simp [hne]⟩
    show frame = (Trace.accepted (d.write frame).call ++ []) ++ frame
    rw [hnone, List.nil_append, List.nil_append]
  | @taken frame d n o hne h later ih =>
    obtain ⟨rest, hrest, hiff⟩ := ih
    refine ⟨rest, ?_, hiff⟩
    -- The piece that is taken now comes before what is taken of the rest of the frame.
    rw [written_after, Trace.accepted_of_ok h, write_asked, List.append_assoc, ← hrest,
      List.take_append_drop]
  | @interrupted frame d e o hne h hkind again ih =>
    obtain ⟨rest, hrest, hiff⟩ := ih
    refine ⟨rest, ?_, hiff⟩
    rw [written_after, Trace.accepted_of_error h, List.nil_append]
    exact hrest
  | @failed frame d e hne h hkind =>
    refine ⟨frame, ?_, by simp [hne]⟩
    show frame = (Trace.accepted (d.write frame).call ++ []) ++ frame
    rw [Trace.accepted_of_error h, List.nil_append, List.nil_append]

/-- What the device has taken of a frame is a beginning of it. -/
theorem Writing.written_prefix (h : Writing frame d o) : Trace.written o.trace <+: frame := by
  obtain ⟨rest, hrest, -⟩ := h.exists_written_append
  exact ⟨rest, hrest.symm⟩

/-- The writing of a frame succeeds exactly when the device has taken the whole of it. -/
theorem Writing.result_eq_ok_iff (h : Writing frame d o) :
    o.result = .ok () ↔ Trace.written o.trace = frame := by
  obtain ⟨rest, hrest, hiff⟩ := h.exists_written_append
  rw [hiff]
  constructor
  · rintro rfl
    rw [hrest, List.append_nil]
  · intro hwhole
    rw [hwhole] at hrest
    exact List.append_right_eq_self.1 hrest.symm

end Writing

section GetsOn

variable {frame : List UInt8} {d : Device}

/-- If all writes are going to get on, then the next one does, and those after it are going to. -/
theorem write_of_getsOn (hne : frame ≠ []) (h : ∀ step ∈ d.writes, step.GetsOn) :
    ((∃ n, 0 < n ∧ (d.write frame).call.answer = .ok n) ∨
        ∃ e, e.kind = .interrupted ∧ (d.write frame).call.answer = .error e) ∧
      ∀ step ∈ (d.write frame).device.writes, step.GetsOn := by
  have hlength : 0 < frame.length := List.length_pos_iff.2 hne
  obtain ⟨clock, reads, writes, timeouts⟩ := d
  match writes with
  | [] => exact ⟨Or.inl ⟨frame.length, hlength, rfl⟩, h⟩
  | ⟨advance, answer⟩ :: rest =>
    obtain ⟨hfirst, hrest⟩ := List.forall_mem_cons.1 h
    refine ⟨?_, hrest⟩
    match answer with
    | .error e => exact Or.inr ⟨e, hfirst, rfl⟩
    | .ok none => exact Or.inl ⟨_, Nat.lt_min.2 ⟨hlength, hlength⟩, rfl⟩
    | .ok (some quota) =>
      have hquota : 0 < quota := Nat.pos_of_ne_zero fun hzero => hfirst (congrArg some hzero)
      exact Or.inl ⟨_, Nat.lt_min.2 ⟨hquota, hlength⟩, rfl⟩

/-- A frame is written as a whole if all writes are going to get on. -/
theorem Writing.result_of_getsOn {o : Outcome Device IoError Unit} (h : Writing frame d o)
    (hwrites : ∀ step ∈ d.writes, step.GetsOn) : o.result = .ok () := by
  induction h with
  | done d => rfl
  | stuck hne h =>
    rcases (write_of_getsOn hne hwrites).1 with ⟨n, hpos, hanswer⟩ | ⟨e, hkind, hanswer⟩
    · rw [h] at hanswer
      obtain rfl := Except.ok.inj hanswer
      exact absurd hpos (Nat.lt_irrefl 0)
    · rw [h] at hanswer
      cases hanswer
  | taken hne h rest ih => exact ih (write_of_getsOn hne hwrites).2
  | interrupted hne h hkind again ih => exact ih (write_of_getsOn hne hwrites).2
  | failed hne h hkind =>
    rcases (write_of_getsOn hne hwrites).1 with ⟨n, hpos, hanswer⟩ | ⟨e, hinterrupted, hanswer⟩
    · rw [h] at hanswer
      cases hanswer
    · rw [h] at hanswer
      obtain rfl := Except.error.inj hanswer
      exact absurd hinterrupted hkind

end GetsOn

end Device

/-! ## Stranded bytes -/

/-- The bytes that the device took of a frame that it did not take as a whole. -/
def Trace.stranded (frame : List UInt8) (t : Trace) : List UInt8 :=
  if Trace.written t = frame then [] else Trace.written t

namespace Trace

variable {frame : List UInt8} {t : Trace}

/-- Nothing is stranded of a frame that is taken as a whole. -/
theorem stranded_of_whole (h : written t = frame) : stranded frame t = [] :=
  if_pos h

/-- Otherwise all bytes taken are stranded. -/
theorem stranded_of_not_whole (h : written t ≠ frame) : stranded frame t = written t :=
  if_neg h

/-- Bytes are stranded exactly where a frame is taken in part. -/
theorem stranded_eq_nil_iff : stranded frame t = [] ↔ written t = [] ∨ written t = frame := by
  by_cases h : written t = frame
  · simp [stranded_of_whole h, h]
  · simp [stranded_of_not_whole h, h]

end Trace

/-! ## Operations on a connection -/

namespace Connection

variable (frame : List UInt8) (c : Connection)

/-- The bytes taken while a frame is sent are those taken by the writing. -/
theorem written_send :
    Trace.written (c.send frame).trace = Trace.written (c.device.writeAll frame).trace := by
  rw [Trace.written, writes_trace_send, Trace.written]

/-- Sending counts the bytes that are taken, except those that are stranded. -/
theorem sent_send :
    (c.send frame).state.sent + (Trace.stranded frame (c.send frame).trace).length
      = c.sent + (Trace.written (c.send frame).trace).length := by
  have hiff := (c.device.writeAll_writing frame).result_eq_ok_iff
  rw [← written_send] at hiff
  cases hres : (c.device.writeAll frame).result with
  | ok u =>
    have hwhole : Trace.written (c.send frame).trace = frame := hiff.1 hres
    rw [Trace.stranded_of_whole hwhole, hwhole, send_of_written hres]
    rfl
  | error e =>
    have hpart : Trace.written (c.send frame).trace ≠ frame := by
      intro hwhole
      rw [hiff.2 hwhole] at hres
      cases hres
    rw [Trace.stranded_of_not_whole hpart, send_of_unwritten hres]

/-- Reading a reply hands nothing to the device. -/
theorem written_readReply : Trace.written c.readReply.trace = [] := by
  rw [Trace.written, writes_trace_readReply, List.flatMap_nil]

/-- An exchange hands to the device what sending does. -/
theorem written_exchange :
    Trace.written (c.exchange frame).trace = Trace.written (c.send frame).trace := by
  rw [Trace.written, writes_trace_exchange, Trace.written]

/-- An exchange counts as sent what sending does. -/
theorem exchange_sent : (c.exchange frame).state.sent = (c.send frame).state.sent := by
  cases hsend : (c.send frame).result with
  | ok u => rw [exchange_of_send_ok hsend, Outcome.after_state, readReply_sent]
  | error e => rw [exchange_of_send_error hsend]

end Connection

/-! ## Sessions -/

/-- The frame that an action sends; actions that send nothing have an empty one. -/
def Action.frame : Action → List UInt8
  | .send frame => frame
  | .exchange frame => frame
  | _ => []

namespace Session

/-- Every action counts the bytes that are taken during it, except those that are stranded. -/
theorem sent_perform (action : Action) (s : Session) :
    (s.perform action).state.connection.sent
        + (Trace.stranded action.frame (s.perform action).trace).length
      = s.connection.sent + (Trace.written (s.perform action).trace).length := by
  cases action with
  | send frame => exact s.connection.sent_send frame
  | read =>
    have hnone := s.connection.written_readReply
    have hkept : Trace.stranded Action.read.frame s.connection.readReply.trace = [] :=
      Trace.stranded_of_whole hnone
    rw [perform, afterReading_connection, afterReading_trace, Connection.readReply_sent, hkept,
      hnone]
  | exchange frame =>
    have hwritten := s.connection.written_exchange frame
    have hsend := s.connection.sent_send frame
    rw [perform, afterReading_connection, afterReading_trace, Connection.exchange_sent]
    unfold Trace.stranded Action.frame at *
    rw [hwritten]
    exact hsend
  | decode => rfl
  | feed supply => rfl

/-- The bytes that are stranded by a list of actions, from first to last. -/
def stranded : List Action → Session → List UInt8
  | [], _ => []
  | action :: rest, s =>
    Trace.stranded action.frame (s.perform action).trace ++ stranded rest (s.perform action).state

/-- The bytes stranded by some actions come before those stranded by the others. -/
theorem stranded_append (earlier later : List Action) (s : Session) :
    stranded (earlier ++ later) s = stranded earlier s ++ stranded later (final earlier s) := by
  induction earlier generalizing s with
  | nil => rfl
  | cons action rest ih => rw [List.cons_append, stranded, stranded, ih, List.append_assoc, final_cons]

/-- Nothing is stranded exactly when each frame is taken as a whole or not at all. -/
theorem stranded_eq_nil_iff {actions : List Action} {s : Session} :
    stranded actions s = [] ↔
      ∀ earlier action later, actions = earlier ++ action :: later →
        let o := (final earlier s).perform action
        Trace.written o.trace = [] ∨ Trace.written o.trace = action.frame := by
  constructor
  · rintro hnone earlier action later rfl
    rw [stranded_append, stranded, List.append_eq_nil_iff, List.append_eq_nil_iff] at hnone
    exact Trace.stranded_eq_nil_iff.1 hnone.2.1
  · intro hall
    induction actions generalizing s with
    | nil => rfl
    | cons action rest ih =>
      have hfirst : Trace.stranded action.frame (s.perform action).trace = [] :=
        Trace.stranded_eq_nil_iff.2 (hall [] action rest rfl)
      rw [stranded, hfirst, List.nil_append]
      refine ih fun earlier later' later hsplit => ?_
      exact hall (action :: earlier) later' later (by rw [hsplit, List.cons_append])

/-- Over any number of actions, the bytes counted and the bytes stranded are the bytes taken. -/
theorem sent_final (actions : List Action) (s : Session) :
    (final actions s).connection.sent + (stranded actions s).length
      = s.connection.sent + (Trace.written (trace actions s)).length := by
  induction actions generalizing s with
  | nil => rfl
  | cons action rest ih =>
    have hstep := sent_perform action s
    have hrest := ih (s.perform action).state
    rw [final_cons, trace_cons, Trace.written_append, List.length_append, stranded,
      List.length_append]
    omega

/-- **What the counter of sent bytes says.**  In a session over any device and under any settings,
the bytes counted and the bytes stranded are together the bytes that the device has taken.  So the
counter is the number of bytes taken so far, after each action, exactly when each frame was taken as
a whole or not at all. -/
theorem sent_eq_written_iff (config : Config) (device : Device) (actions : List Action) :
    (final actions (start config device)).connection.sent
          + (stranded actions (start config device)).length
        = (Trace.written (trace actions (start config device))).length ∧
      ((∀ earlier, earlier <+: actions →
          (final earlier (start config device)).connection.sent
            = (Trace.written (trace earlier (start config device))).length) ↔
        ∀ earlier action later, actions = earlier ++ action :: later →
          let o := (final earlier (start config device)).perform action
          Trace.written o.trace = [] ∨ Trace.written o.trace = action.frame) := by
  have hbalance : ∀ earlier, (final earlier (start config device)).connection.sent
      + (stranded earlier (start config device)).length
        = (Trace.written (trace earlier (start config device))).length := by
    intro earlier
    rw [sent_final]
    exact Nat.zero_add _
  refine ⟨hbalance actions, ?_⟩
  rw [← stranded_eq_nil_iff]
  constructor
  · intro hexact
    have hwhole := hexact actions (List.prefix_refl actions)
    have hsum := hbalance actions
    exact List.eq_nil_of_length_eq_zero (by omega)
  · rintro hnone earlier ⟨later, rfl⟩
    -- Nothing is stranded in a part of the session if nothing is stranded in the whole of it.
    rw [stranded_append, List.append_eq_nil_iff] at hnone
    have hsum := hbalance earlier
    rwa [hnone.1] at hsum

/-- A session over a device that takes two bytes and then fails. -/
def cutShort : Session :=
  start ⟨"", 115200, 1, 4⟩
    ⟨0, [], [⟨0, .ok (some 2)⟩, ⟨0, .error (.ofKind .brokenPipe)⟩], []⟩

/-- The counter is not the number of bytes taken where a write fails after two bytes. -/
theorem sent_cutShort :
    Trace.written (trace [.send [1, 2, 3, 4]] cutShort) = [1, 2] ∧
      (final [.send [1, 2, 3, 4]] cutShort).connection.sent = 0 ∧
      (final [.send [1, 2, 3, 4]] cutShort).connection.sent
        ≠ (Trace.written (trace [.send [1, 2, 3, 4]] cutShort)).length := by
  decide +kernel

end Session

end VersionProbe
