/-
# What the counters count

A connection counts a reply once it has all of it.  The bytes that were delivered to a read that
fails in the end are never counted, so the counter of received bytes falls short of the bytes
delivered by exactly those.

* `received_final` : counted and lost bytes together are the bytes delivered.
* `received_eq_delivered_iff` : the counter is the number of bytes delivered throughout a session
  exactly when no action that fails in it had bytes delivered to it.
-/
import VersionProbe.Proofs.Conservation

namespace VersionProbe

namespace Connection

variable (frame : List UInt8) (c : Connection)

/-- Sending brings no bytes. -/
theorem delivered_send : Trace.delivered (c.send frame).trace = [] := by
  unfold Trace.delivered
  rw [reads_trace_send, List.flatMap_nil]

/-- A reply is counted byte by byte. -/
theorem received_readReply_of_ok {r : Reply} (h : c.readReply.result = .ok r) :
    c.readReply.state.received = c.received + (Trace.delivered c.readReply.trace).length := by
  obtain ⟨hbytes, -⟩ := readReply_reply c h
  rw [← hbytes]
  cases hres : c.collected.result with
  | ok bytes =>
    rw [readReply_of_collected hres] at h ⊢
    obtain rfl := Except.ok.inj h
    rfl
  | error e =>
    rw [readReply_of_lost hres] at h
    cases h

/-- A reply that is lost is not counted. -/
theorem received_readReply_of_error {e : ProbeError} (h : c.readReply.result = .error e) :
    c.readReply.state.received = c.received := by
  cases hres : c.collected.result with
  | ok bytes =>
    rw [readReply_of_collected hres] at h
    cases h
  | error e => rw [readReply_of_lost hres]

end Connection

namespace Session

/-! ## Lost bytes -/

/-- The bytes that were delivered to an action that failed. -/
def lost (o : Outcome Session ProbeError Answer) : List UInt8 :=
  match o.result with
  | .ok _ => []
  | .error _ => Trace.delivered o.trace

/-- Bytes are lost exactly where an action fails that had bytes delivered to it. -/
theorem lost_eq_nil_iff {o : Outcome Session ProbeError Answer} :
    lost o = [] ↔ ∀ e, o.result = .error e → Trace.delivered o.trace = [] := by
  unfold lost
  cases hres : o.result with
  | ok a => simp
  | error e => simp

/-- What an action counts and what it loses is what was delivered to it. -/
def Balanced (c : Connection) (o : Outcome Session ProbeError Answer) : Prop :=
  o.state.connection.received + (lost o).length = c.received + (Trace.delivered o.trace).length

/-- An action to which nothing is delivered, and which counts nothing, is balanced. -/
theorem balanced_of_nothing {c : Connection} {o : Outcome Session ProbeError Answer}
    (hnone : Trace.delivered o.trace = []) (hsame : o.state.connection.received = c.received) :
    Balanced c o := by
  have hlost : lost o = [] := lost_eq_nil_iff.2 fun _ _ => hnone
  unfold Balanced
  rw [hlost, hnone, hsame]

/-- A reply is counted or lost, whatever was sent before it was read. -/
theorem balanced_afterReading (c : Connection) {t : Trace} (hnone : Trace.delivered t = []) :
    Balanced c (afterReading (c.readReply.after t)) := by
  have hdelivered : Trace.delivered (afterReading (c.readReply.after t)).trace
      = Trace.delivered c.readReply.trace := by
    rw [afterReading_trace, Outcome.after_trace, Trace.delivered_append, hnone, List.nil_append]
  unfold Balanced lost
  rw [hdelivered, afterReading_connection, afterReading_result, Outcome.after_state,
    Outcome.after_result]
  cases hres : c.readReply.result with
  | ok r => exact Connection.received_readReply_of_ok c hres
  | error e =>
    rw [Connection.received_readReply_of_error c hres]
    rfl

/-- Every action counts what is delivered to it or loses it. -/
theorem balanced_perform (action : Action) (s : Session) :
    Balanced s.connection (s.perform action) := by
  cases action with
  | send frame =>
    exact balanced_of_nothing (s.connection.delivered_send frame) (s.connection.send_received frame)
  | read => exact balanced_afterReading s.connection (t := []) rfl
  | exchange frame =>
    have hnone := s.connection.delivered_send frame
    cases hsend : (s.connection.send frame).result with
    | ok u =>
      -- The balance is that of the read, since the write brings nothing.
      have hread := balanced_afterReading (s.connection.send frame).state hnone
      unfold Balanced at hread ⊢
      rw [perform, Connection.exchange_of_send_ok hsend, hread, Connection.send_received]
    | error e =>
      refine balanced_of_nothing ?_ ?_
      · rw [perform, afterReading_trace, Connection.exchange_of_send_error hsend, hnone]
      · rw [perform, afterReading_connection, Connection.exchange_of_send_error hsend,
          Connection.send_received]
  | decode => exact balanced_of_nothing rfl rfl
  | feed supply => rfl

/-! ## Whole sessions -/

/-- Over any number of actions, the bytes counted and the bytes lost are the bytes delivered. -/
theorem received_final (actions : List Action) (s : Session) :
    (final actions s).connection.received + ((run actions s).flatMap lost).length
      = s.connection.received + (Trace.delivered (trace actions s)).length := by
  induction actions generalizing s with
  | nil => rfl
  | cons action rest ih =>
    have hstep := balanced_perform action s
    have hrest := ih (s.perform action).state
    unfold Balanced at hstep
    rw [final_cons, trace_cons, Trace.delivered_append, List.length_append, run, List.flatMap_cons,
      List.length_append]
    omega

/-- **What the counter of received bytes says.**  In a session over any device and under any
settings, the bytes counted and the bytes lost in actions that failed are together the bytes
delivered.  So the counter is the number of bytes delivered so far, after each action, exactly when
no action that fails had bytes delivered to it. -/
theorem received_eq_delivered_iff (config : Config) (device : Device) (actions : List Action) :
    (final actions (start config device)).connection.received
          + ((run actions (start config device)).flatMap lost).length
        = (Trace.delivered (trace actions (start config device))).length ∧
      ((∀ earlier, earlier <+: actions →
          (final earlier (start config device)).connection.received
            = (Trace.delivered (trace earlier (start config device))).length) ↔
        ∀ o ∈ run actions (start config device), ∀ e, o.result = .error e →
          Trace.delivered o.trace = []) := by
  have hbalance : ∀ earlier, (final earlier (start config device)).connection.received
      + ((run earlier (start config device)).flatMap lost).length
        = (Trace.delivered (trace earlier (start config device))).length := by
    intro earlier
    rw [received_final]
    exact Nat.zero_add _
  refine ⟨hbalance actions, ?_⟩
  constructor
  · intro hexact o ho
    have hnone : (run actions (start config device)).flatMap lost = [] := by
      have hwhole := hexact actions (List.prefix_refl actions)
      have hsum := hbalance actions
      exact List.eq_nil_of_length_eq_zero (by omega)
    exact lost_eq_nil_iff.1 (List.flatMap_eq_nil_iff.1 hnone o ho)
  · rintro hkept earlier ⟨later, rfl⟩
    -- Nothing is lost in a part of the session if nothing is lost in the whole of it.
    have hnone : (run earlier (start config device)).flatMap lost = [] := by
      rw [List.flatMap_eq_nil_iff]
      intro o ho
      refine lost_eq_nil_iff.2 (hkept o ?_)
      rw [run_append]
      exact List.mem_append_left _ ho
    have hsum := hbalance earlier
    rwa [hnone] at hsum

/-- The counter is not the number of bytes delivered where a read fails after two bytes. -/
theorem received_failingMidway :
    Trace.delivered (trace [.read] failingMidway) = [1, 2] ∧
      (final [.read] failingMidway).connection.received = 0 ∧
      (final [.read] failingMidway).connection.received
        ≠ (Trace.delivered (trace [.read] failingMidway)).length := by
  decide +kernel

end Session

end VersionProbe
