/-
# The stream is conserved

Whatever is done over a connection, the bytes that its device delivers come off the front of the
stream, in order, and the rest of the stream stays with the device.  A reply consists of the bytes
that were delivered while it was read; a read that fails loses the bytes that were delivered to it
and no others.

* `session_conserves_stream` : over a whole session, what was delivered followed by what is pending
  is what the device had to begin with followed by what it was supplied with.
-/
import Mathlib.Data.List.Basic
import VersionProbe.Session

namespace VersionProbe

/-! ## Accounts -/

/-- `Accounts before t after` says that the bytes delivered in `t` are those by which the stream of
the device became shorter at its front. -/
def Accounts (before : Device) (t : Trace) (after : Device) : Prop :=
  before.pending = Trace.delivered t ++ after.pending

namespace Accounts

/-- A device whose answers to reads are untouched has delivered nothing. -/
theorem of_reads_eq {before after : Device} {t : Trace} (hreads : after.reads = before.reads)
    (hnone : Trace.reads t = []) : Accounts before t after := by
  unfold Accounts Trace.delivered Device.pending
  rw [hreads, hnone, List.flatMap_nil, List.nil_append]

/-- Accounts of two stretches add up. -/
theorem trans {before between after : Device} {s t : Trace} (hs : Accounts before s between)
    (ht : Accounts between t after) : Accounts before (s ++ t) after := by
  unfold Accounts at *
  rw [Trace.delivered_append, hs, ht, List.append_assoc]

/-- Effects without a read call change no account. -/
theorem append_of_no_reads {before after : Device} {s t : Trace} (hs : Accounts before s after)
    (hnone : Trace.reads t = []) : Accounts before (s ++ t) after :=
  hs.trans (of_reads_eq rfl hnone)

end Accounts

namespace Device

/-! ## Transfers -/

/-- A turn of the loop takes from the stream what its read brings. -/
theorem Turn.accounts {deadline : Nat} {b : Buffer} {d : Device}
    {armed : Answered Nat (Except SerialError Unit)}
    {answered : Answered Nat (Except IoError (List UInt8))}
    (turn : Turn deadline b d armed answered) :
    Accounts d [.setTimeout armed.call, .read answered.call] answered.device := by
  -- Setting the timeout leaves the stream alone, so only the read counts.
  have hread := pending_read b.room armed.device
  rw [← turn.arming, setTimeout_pending, turn.arming, turn.reading] at hread
  show d.pending = Trace.arrived answered.call ++ [] ++ answered.device.pending
  rw [hread, List.append_nil]

section Collecting

variable {deadline : Nat} {b : Buffer} {d : Device} {o : Outcome Device IoError (List UInt8)}

/-- Collecting a reply takes from the stream what is delivered, whether or not it is lost. -/
theorem Collecting.accounts (h : Collecting deadline b d o) : Accounts d o.trace o.state := by
  induction h with
  | full h => exact .of_reads_eq rfl rfl
  | late hroom h => exact .of_reads_eq rfl rfl
  | refused hroom htime harmed h =>
    refine .of_reads_eq ?_ rfl
    rw [← harmed, setTimeout_reads]
  | ended turn h => exact turn.accounts.append_of_no_reads rfl
  | data turn h hne fits rest ih => exact (turn.accounts.append_of_no_reads rfl).trans ih
  | timedOut turn h hkind => exact turn.accounts.append_of_no_reads rfl
  | interrupted turn h hkind again ih => exact turn.accounts.trans ih
  | failed turn h htimedOut hinterrupted => exact turn.accounts

/-- The invariant of the loop: what stands before the mark when it ends is what stood there when
it began, followed by what was delivered in between. -/
theorem Collecting.result_eq (h : Collecting deadline b d o) {bytes : List UInt8}
    (hok : o.result = .ok bytes) : bytes = b.content ++ Trace.delivered o.trace := by
  induction h generalizing bytes with
  | full h =>
    obtain rfl := Except.ok.inj hok
    exact (List.append_nil _).symm
  | late hroom h =>
    obtain rfl := Except.ok.inj hok
    exact (List.append_nil _).symm
  | refused hroom htime harmed h => exact absurd hok (by simp)
  | @ended b d armed answered turn h =>
    obtain rfl := Except.ok.inj hok
    show b.content = b.content ++ (Trace.arrived answered.call ++ [])
    rw [Trace.arrived_of_ok h, List.append_nil, List.append_nil]
  | @data b d armed answered chunk o turn h hne fits rest ih =>
    -- The chunk is stored behind what was there, and delivered before what comes later.
    have hrest : bytes = (b.store chunk fits).content ++ Trace.delivered o.trace := ih hok
    show bytes = b.content ++ (Trace.arrived answered.call ++ Trace.delivered o.trace)
    rw [hrest, Buffer.content_store, Trace.arrived_of_ok h, List.append_assoc]
  | @timedOut b d armed answered e turn h hkind =>
    obtain rfl := Except.ok.inj hok
    show b.content = b.content ++ (Trace.arrived answered.call ++ [])
    rw [Trace.arrived_of_error h, List.append_nil, List.append_nil]
  | @interrupted b d armed answered e o turn h hkind again ih =>
    show bytes = b.content ++ (Trace.arrived answered.call ++ Trace.delivered o.trace)
    rw [Trace.arrived_of_error h, List.nil_append]
    exact ih hok
  | failed turn h htimedOut hinterrupted => exact absurd hok (by simp)

/-- What is delivered while a reply is collected fits in the room that the buffer had. -/
theorem Collecting.length_delivered_le (h : Collecting deadline b d o) :
    (Trace.delivered o.trace).length ≤ b.room := by
  induction h with
  | full h => exact Nat.zero_le _
  | late hroom h => exact Nat.zero_le _
  | refused hroom htime harmed h => exact Nat.zero_le _
  | @ended b d armed answered turn h =>
    show (Trace.arrived answered.call ++ []).length ≤ b.room
    rw [Trace.arrived_of_ok h]
    exact Nat.zero_le _
  | @data b d armed answered chunk o turn h hne fits rest ih =>
    -- The chunk takes up as much room as it brings bytes.
    show (Trace.arrived answered.call ++ Trace.delivered o.trace).length ≤ b.room
    rw [Buffer.room_store] at ih
    rw [Trace.arrived_of_ok h, List.length_append]
    omega
  | @timedOut b d armed answered e turn h hkind =>
    show (Trace.arrived answered.call ++ []).length ≤ b.room
    rw [Trace.arrived_of_error h]
    exact Nat.zero_le _
  | @interrupted b d armed answered e o turn h hkind again ih =>
    show (Trace.arrived answered.call ++ Trace.delivered o.trace).length ≤ b.room
    rw [Trace.arrived_of_error h]
    exact ih
  | @failed b d armed answered e turn h htimedOut hinterrupted =>
    show (Trace.arrived answered.call ++ []).length ≤ b.room
    rw [Trace.arrived_of_error h]
    exact Nat.zero_le _

end Collecting

end Device

/-! ## Operations on a connection -/

namespace Connection

variable (frame : List UInt8) (c : Connection)

/-- Sending takes nothing from the stream. -/
theorem send_accounts :
    Accounts c.device (c.send frame).trace (c.send frame).state.device := by
  refine .of_reads_eq ?_ (c.reads_trace_send frame)
  rw [device_send]
  exact (c.device.writeAll_writing frame).reads_state

/-- Reading a reply takes from the stream what is delivered, whether or not it is lost. -/
theorem readReply_accounts :
    Accounts c.device c.readReply.trace c.readReply.state.device := by
  have hcollected : Accounts c.device c.collected.trace c.collected.state :=
    (Device.collect_collecting _ _ _).accounts
  cases hres : c.collected.result with
  | ok bytes => rwa [readReply_of_collected hres]
  | error e => rwa [readReply_of_lost hres]

/-- A reply consists of the bytes that were delivered while it was read, and is not too long. -/
theorem readReply_reply {r : Reply} (h : c.readReply.result = .ok r) :
    r.bytes = Trace.delivered c.readReply.trace ∧ r.length ≤ c.config.maxReply := by
  have hcollecting := Device.collect_collecting c.deadline (.blank c.config.maxReply) c.device
  cases hres : c.collected.result with
  | ok bytes =>
    rw [readReply_of_collected hres] at h ⊢
    obtain rfl := Except.ok.inj h
    have hbytes : bytes = Trace.delivered c.collected.trace := by
      rw [hcollecting.result_eq hres, Buffer.content_blank, List.nil_append]
      rfl
    refine ⟨hbytes, ?_⟩
    have hle := hcollecting.length_delivered_le
    rw [Buffer.room_blank] at hle
    show bytes.length ≤ c.config.maxReply
    rw [hbytes]
    exact hle
  | error e =>
    rw [readReply_of_lost hres] at h
    cases h

/-- An exchange takes from the stream what is delivered, wherever it fails. -/
theorem exchange_accounts :
    Accounts c.device (c.exchange frame).trace (c.exchange frame).state.device := by
  cases hsend : (c.send frame).result with
  | ok u =>
    rw [exchange_of_send_ok hsend]
    exact (send_accounts frame c).trans (readReply_accounts _)
  | error e =>
    rw [exchange_of_send_error hsend]
    exact send_accounts frame c

/-- The reply to an exchange consists of the bytes that were delivered during the exchange, and is
not too long. -/
theorem exchange_reply {r : Reply} (h : (c.exchange frame).result = .ok r) :
    r.bytes = Trace.delivered (c.exchange frame).trace ∧ r.length ≤ c.config.maxReply := by
  cases hsend : (c.send frame).result with
  | ok u =>
    rw [exchange_of_send_ok hsend] at h ⊢
    obtain ⟨hbytes, hlength⟩ := readReply_reply _ h
    refine ⟨?_, by rwa [send_config] at hlength⟩
    -- Nothing was delivered while the frame was written.
    rw [Outcome.after_trace, Trace.delivered_append, hbytes]
    unfold Trace.delivered
    rw [reads_trace_send, List.flatMap_nil, List.nil_append]
  | error e =>
    rw [exchange_of_send_error hsend] at h
    cases h

end Connection

/-! ## Sessions -/

/-- The bytes that an action supplies the device with. -/
def Action.supplied : Action → List UInt8
  | .feed supply => supply.reads.flatMap ReadStep.bytes
  | _ => []

namespace Session

/-- The bytes that the device of a session has still to deliver. -/
def pending (s : Session) : List UInt8 :=
  s.connection.device.pending

variable (action : Action) (s : Session)

/-- Every action takes from the stream what is delivered, after it has added what it supplies. -/
theorem pending_perform :
    s.pending ++ action.supplied
      = Trace.delivered (s.perform action).trace ++ (s.perform action).state.pending := by
  cases action with
  | send frame =>
    show s.pending ++ [] = _
    rw [List.append_nil]
    exact s.connection.send_accounts frame
  | read =>
    show s.pending ++ [] = _
    rw [List.append_nil, perform, afterReading_trace, pending, pending, afterReading_connection]
    exact s.connection.readReply_accounts
  | exchange frame =>
    show s.pending ++ [] = _
    rw [List.append_nil, perform, afterReading_trace, pending, pending, afterReading_connection]
    exact s.connection.exchange_accounts frame
  | decode => exact List.append_nil _
  | feed supply => exact (Device.pending_feed supply s.connection.device).symm

/-- An action that fails has supplied nothing. -/
theorem supplied_of_fails {action : Action} {s : Session} {e : ProbeError}
    (h : (s.perform action).result = .error e) : action.supplied = [] := by
  cases action with
  | feed supply => cases h
  | _ => rfl

/-- No action changes the settings. -/
theorem config_perform : (s.perform action).state.connection.config = s.connection.config := by
  cases action with
  | send frame => exact s.connection.send_config frame
  | read => rw [perform, afterReading_connection, Connection.readReply_config]
  | exchange frame => rw [perform, afterReading_connection, Connection.exchange_config]
  | decode => rfl
  | feed supply => rfl

/-- A reply consists of the bytes that were delivered during the action it answers, and is not too
long. -/
theorem reply_perform {r : Reply} (h : (s.perform action).result = .ok (.reply r)) :
    r.bytes = Trace.delivered (s.perform action).trace ∧
      r.length ≤ s.connection.config.maxReply := by
  cases action with
  | send frame =>
    rw [perform] at h
    cases hres : (s.connection.send frame).result <;> rw [hres] at h <;> cases h
  | read =>
    rw [perform] at h ⊢
    rw [afterReading_trace]
    exact Connection.readReply_reply _ (afterReading_result_eq_reply.1 h)
  | exchange frame =>
    rw [perform] at h ⊢
    rw [afterReading_trace]
    exact Connection.exchange_reply _ _ (afterReading_result_eq_reply.1 h)
  | decode =>
    rw [perform] at h
    cases hres : LocalVersion.decode s.last.bytes <;> rw [hres] at h <;> cases h
  | feed supply => cases h

/-! ## Whole sessions -/

/-- No number of actions changes the settings. -/
theorem config_final (actions : List Action) (s : Session) :
    (final actions s).connection.config = s.connection.config := by
  induction actions generalizing s with
  | nil => rfl
  | cons action rest ih => rw [final_cons, ih, config_perform]

/-- What was pending and what was supplied is what was delivered and what is pending still. -/
theorem pending_final (actions : List Action) (s : Session) :
    s.pending ++ actions.flatMap Action.supplied
      = Trace.delivered (trace actions s) ++ (final actions s).pending := by
  induction actions generalizing s with
  | nil => exact List.append_nil _
  | cons action rest ih =>
    rw [List.flatMap_cons, ← List.append_assoc, pending_perform, List.append_assoc, ih,
      trace_cons, Trace.delivered_append, final_cons, List.append_assoc]

/-- **The stream is conserved over sessions.**  In a session over any device and under any settings,
with whatever supplies in between, the bytes delivered by all actions in order, followed by those
that are pending in the end, are the bytes that the device had and was supplied with.  At every
place in the session a reply consists of exactly the bytes that were delivered during its action,
and of no more than the settings allow; and an action that fails takes exactly the bytes that were
delivered during it from the front of the stream. -/
theorem session_conserves_stream (config : Config) (device : Device) (actions : List Action) :
    Trace.delivered (trace actions (start config device))
          ++ (final actions (start config device)).pending
        = device.pending ++ actions.flatMap Action.supplied ∧
      ∀ earlier action later, actions = earlier ++ action :: later →
        let before := final earlier (start config device)
        let o := before.perform action
        (∀ r, o.result = .ok (.reply r) →
          r.bytes = Trace.delivered o.trace ∧ r.length ≤ config.maxReply) ∧
        (∀ e, o.result = .error e →
          before.pending = Trace.delivered o.trace ++ o.state.pending) := by
  refine ⟨(pending_final actions _).symm, ?_⟩
  intro earlier action later hsplit before o
  refine ⟨?_, ?_⟩
  · intro r hreply
    have hsettings : before.connection.config = config := config_final earlier _
    rw [← hsettings]
    exact reply_perform action before hreply
  · intro e hfails
    -- An action that fails is no supply, so the account is that of the device alone.
    have hpending := pending_perform action before
    rwa [supplied_of_fails hfails, List.append_nil] at hpending

/-- A session over a device that delivers two bytes, fails, and has a third byte to deliver. -/
def failingMidway : Session :=
  start ⟨"", 115200, 1, 4⟩
    ⟨0, [⟨0, .ok [1, 2]⟩, ⟨0, .error (.ofKind .brokenPipe)⟩, ⟨0, .ok [3]⟩], [], []⟩

/-- A read that fails after two bytes loses these and leaves the third one pending. -/
theorem pending_failingMidway :
    (failingMidway.perform .read).result = .error (.io (.ofKind .brokenPipe)) ∧
      failingMidway.pending = [1, 2] ++ (failingMidway.perform .read).state.pending ∧
      (failingMidway.perform .read).state.pending = [3] := by
  have hfails : (failingMidway.perform .read).result = .error (.io (.ofKind .brokenPipe)) := by
    decide +kernel
  have hlost : Trace.delivered (failingMidway.perform .read).trace = [1, 2] := by
    decide +kernel
  refine ⟨hfails, ?_, by decide +kernel⟩
  rw [← hlost]
  exact ((session_conserves_stream _ _ [.read]).2 [] .read [] rfl).2 _ hfails

end Session

end VersionProbe
