/-
# The deadline of a reply

One deadline holds for a whole reply, however many pieces it arrives in and however often a read is
interrupted: before each read the device is told exactly how much time is left.  A device that
keeps to the timeouts it is told therefore keeps the whole reply within its time, and one that
waits as long as it may before it gives up makes a short reply last until the deadline.

* `timeouts_timeLeft` : every timeout is the time left, which is the invariant of the loop.
* `readReply_keeps_deadline` : what follows for the reading of a reply.
-/
import Mathlib.Data.List.Basic
import VersionProbe.Connection

namespace VersionProbe

/-! ## Time left -/

/-- `AsksTimeLeft start deadline call` says that a call that sets the timeout is made at `start` or
later and before the deadline, and asks for the time from then to the deadline. -/
structure AsksTimeLeft (start deadline : Nat) (call : Call Nat (Except SerialError Unit)) :
    Prop where
  started : start ≤ call.start
  early : call.start < deadline
  exact : call.start + call.asked = deadline

namespace AsksTimeLeft

variable {start deadline : Nat} {call : Call Nat (Except SerialError Unit)}

/-- The time left is never nothing. -/
theorem asked_pos (h : AsksTimeLeft start deadline call) : 0 < call.asked := by
  have hearly := h.early
  have hexact := h.exact
  omega

/-- The time left is at most the time that there was at the start. -/
theorem asked_le (h : AsksTimeLeft start deadline call) : call.asked ≤ deadline - start := by
  have hstarted := h.started
  have hexact := h.exact
  omega

/-- A call made later than some time is made later than any time before it. -/
theorem of_le {earlier : Nat} (h : AsksTimeLeft start deadline call) (hle : earlier ≤ start) :
    AsksTimeLeft earlier deadline call :=
  ⟨Nat.le_trans hle h.started, h.early, h.exact⟩

end AsksTimeLeft

/-- The read calls of a trace, each with the timeout in force: the one that the device accepted
last before it, or `inForce` if there is none in the trace. -/
def Trace.paced (inForce : Nat) : Trace → List (Nat × Call Nat (Except IoError (List UInt8)))
  | [] => []
  | .setTimeout call :: t =>
    match call.answer with
    | .ok () => paced call.asked t
    | .error _ => paced inForce t
  | .read call :: t => (inForce, call) :: paced inForce t
  | _ :: t => paced inForce t

/-- Whether a read call has timed out. -/
def Trace.timedOut (call : Call Nat (Except IoError (List UInt8))) : Bool :=
  match call.answer with
  | .ok _ => false
  | .error e => e.kind = .timedOut

/-- `WaitsOut p` says of the timeout in force and a read call that the call has taken all of that
time if it timed out. -/
def WaitsOut (p : Nat × Call Nat (Except IoError (List UInt8))) : Prop :=
  Trace.timedOut p.2 → p.1 ≤ p.2.took

instance : DecidablePred WaitsOut := fun p =>
  inferInstanceAs (Decidable (Trace.timedOut p.2 = true → p.1 ≤ p.2.took))

namespace Device

/-! ## One turn of the loop -/

/-- A timeout that is set to the time until the deadline asks for the time left. -/
theorem setTimeout_asksTimeLeft {deadline : Nat} {d : Device} (htime : d.clock < deadline) :
    AsksTimeLeft d.clock deadline (d.setTimeout (deadline - d.clock)).call := by
  constructor
  · exact Nat.le_of_eq (setTimeout_start _ d).symm
  · rwa [setTimeout_start]
  · rw [setTimeout_start, setTimeout_asked]
    omega

section Turn

variable {deadline : Nat} {b : Buffer} {d : Device}
  {armed : Answered Nat (Except SerialError Unit)}
  {answered : Answered Nat (Except IoError (List UInt8))}

/-- A turn asks for the time left. -/
theorem Turn.asksTimeLeft (turn : Turn deadline b d armed answered) :
    AsksTimeLeft d.clock deadline armed.call := by
  rw [← turn.arming]
  exact setTimeout_asksTimeLeft turn.time

/-- A turn begins by setting the timeout, at the time that the clock reads. -/
theorem Turn.start_eq (turn : Turn deadline b d armed answered) : armed.call.start = d.clock := by
  rw [← turn.arming, setTimeout_start]

/-- The clock never goes back. -/
theorem Turn.clock_le (turn : Turn deadline b d armed answered) :
    d.clock ≤ answered.device.clock := by
  rw [turn.clock_eq]
  omega

/-- The timeout in force at the read of a turn is the one that the turn has set. -/
theorem Turn.paced_eq (turn : Turn deadline b d armed answered) (inForce : Nat) (t : Trace) :
    Trace.paced inForce (.setTimeout armed.call :: .read answered.call :: t)
      = (armed.call.asked, answered.call) :: Trace.paced armed.call.asked t := by
  rw [Trace.paced, turn.accepted]
  rfl

/-- If all that follows a turn asks for the time left, so does the whole of it. -/
theorem Turn.timeouts_timeLeft (turn : Turn deadline b d armed answered) {t : Trace}
    (ht : ∀ call ∈ Trace.timeouts t, AsksTimeLeft answered.device.clock deadline call) :
    ∀ call ∈ Trace.timeouts (.setTimeout armed.call :: .read answered.call :: t),
      AsksTimeLeft d.clock deadline call := by
  intro call hcall
  rcases List.mem_cons.1 hcall with rfl | hlater
  · exact turn.asksTimeLeft
  · exact (ht call hlater).of_le turn.clock_le

/-- If all that follows a turn asks for the time left, none of it asks for more than the turn. -/
theorem Turn.asked_antitone (turn : Turn deadline b d armed answered) {t : Trace}
    (ht : ∀ call ∈ Trace.timeouts t, AsksTimeLeft answered.device.clock deadline call)
    (hanti : (Trace.timeouts t).Pairwise fun earlier later => later.asked ≤ earlier.asked) :
    (Trace.timeouts (.setTimeout armed.call :: .read answered.call :: t)).Pairwise
      fun earlier later => later.asked ≤ earlier.asked := by
  refine List.pairwise_cons.2 ⟨?_, hanti⟩
  intro later hlater
  -- A later call has at most the time from its own turn on, which begins no earlier.
  have hleft := (ht later hlater).asked_le
  have hclock := turn.clock_le
  have hexact := turn.asksTimeLeft.exact
  rw [turn.start_eq] at hexact
  omega

/-- A turn whose timeout is set at once and whose read takes no longer than it may ends by the
deadline. -/
theorem Turn.clock_le_deadline (turn : Turn deadline b d armed answered) {inForce : Nat} {t : Trace}
    (hset : ∀ call ∈ Trace.timeouts (.setTimeout armed.call :: .read answered.call :: t),
      call.took = 0)
    (hread : ∀ p ∈ Trace.paced inForce (.setTimeout armed.call :: .read answered.call :: t),
      p.2.took ≤ p.1) : answered.device.clock ≤ deadline := by
  have hnow : armed.call.took = 0 := hset _ List.mem_cons_self
  have hwait : answered.call.took ≤ armed.call.asked := by
    rw [turn.paced_eq] at hread
    exact hread _ List.mem_cons_self
  have hasked := turn.asksTimeLeft.asked_le
  have htime := turn.time
  rw [turn.clock_eq]
  omega

/-- What is asked of the reads from a turn on is asked of those after it. -/
theorem Turn.forall_paced (turn : Turn deadline b d armed answered) {inForce : Nat} {t : Trace}
    {P : Nat × Call Nat (Except IoError (List UInt8)) → Prop}
    (h : ∀ p ∈ Trace.paced inForce (.setTimeout armed.call :: .read answered.call :: t), P p) :
    P (armed.call.asked, answered.call) ∧ ∀ p ∈ Trace.paced armed.call.asked t, P p := by
  rw [turn.paced_eq] at h
  exact ⟨h _ List.mem_cons_self, fun p hp => h p (List.mem_cons_of_mem _ hp)⟩

end Turn

/-! ## The whole loop -/

section Collecting

variable {deadline : Nat} {b : Buffer} {d : Device} {o : Outcome Device IoError (List UInt8)}

/-- Every call that sets the timeout asks for the time left, which is the invariant of the loop. -/
theorem Collecting.timeouts_timeLeft (h : Collecting deadline b d o) :
    ∀ call ∈ Trace.timeouts o.trace, AsksTimeLeft d.clock deadline call := by
  induction h with
  | full h => exact List.forall_mem_nil _
  | late hroom h => exact List.forall_mem_nil _
  | refused hroom htime harmed h =>
    intro call hcall
    rw [List.mem_singleton.1 hcall, ← harmed]
    exact setTimeout_asksTimeLeft htime
  | ended turn h => exact turn.timeouts_timeLeft (t := [_]) (List.forall_mem_nil _)
  | data turn h hne fits rest ih => exact turn.timeouts_timeLeft (t := _ :: _) ih
  | timedOut turn h hkind => exact turn.timeouts_timeLeft (t := [_]) (List.forall_mem_nil _)
  | interrupted turn h hkind again ih => exact turn.timeouts_timeLeft ih
  | failed turn h htimedOut hinterrupted =>
    exact turn.timeouts_timeLeft (t := []) (List.forall_mem_nil _)

/-- The timeouts asked for never increase. -/
theorem Collecting.timeouts_antitone (h : Collecting deadline b d o) :
    (Trace.timeouts o.trace).Pairwise fun earlier later => later.asked ≤ earlier.asked := by
  induction h with
  | full h => exact List.Pairwise.nil
  | late hroom h => exact List.Pairwise.nil
  | refused hroom htime harmed h => exact List.pairwise_singleton _ _
  | ended turn h => exact List.pairwise_singleton _ _
  | data turn h hne fits rest ih =>
    exact turn.asked_antitone (t := _ :: _) rest.timeouts_timeLeft ih
  | timedOut turn h hkind => exact List.pairwise_singleton _ _
  | interrupted turn h hkind again ih => exact turn.asked_antitone again.timeouts_timeLeft ih
  | failed turn h htimedOut hinterrupted => exact List.pairwise_singleton _ _

/-- If timeouts are set at once and reads take no longer than they may, the deadline is kept. -/
theorem Collecting.clock_le_deadline (h : Collecting deadline b d o) (hstart : d.clock ≤ deadline)
    {inForce : Nat} (hset : ∀ call ∈ Trace.timeouts o.trace, call.took = 0)
    (hread : ∀ p ∈ Trace.paced inForce o.trace, p.2.took ≤ p.1) : o.state.clock ≤ deadline := by
  induction h generalizing inForce with
  | full h => exact hstart
  | late hroom h => exact hstart
  | @refused b d armed e hroom htime harmed h =>
    have hnow : armed.call.took = 0 := hset _ List.mem_cons_self
    show armed.device.clock ≤ deadline
    rw [← harmed, setTimeout_clock, harmed, hnow]
    exact hstart
  | ended turn h => exact turn.clock_le_deadline (t := [_]) hset hread
  | data turn h hne fits rest ih =>
    refine ih (turn.clock_le_deadline (t := _ :: _) hset hread) ?_ (turn.forall_paced hread).2
    exact fun call hcall => hset call (List.mem_cons_of_mem _ hcall)
  | timedOut turn h hkind => exact turn.clock_le_deadline (t := [_]) hset hread
  | interrupted turn h hkind again ih =>
    refine ih (turn.clock_le_deadline hset hread) ?_ (turn.forall_paced hread).2
    exact fun call hcall => hset call (List.mem_cons_of_mem _ hcall)
  | failed turn h htimedOut hinterrupted => exact turn.clock_le_deadline (t := []) hset hread

/-- If no read gives up before its time, a reply that is cut short lasts until the deadline, unless
a read finds the end of the stream. -/
theorem Collecting.deadline_le_clock (h : Collecting deadline b d o) {inForce : Nat}
    (hwait : ∀ p ∈ Trace.paced inForce o.trace, WaitsOut p) {bytes : List UInt8}
    (hok : o.result = .ok bytes) (hshort : bytes.length < b.size)
    (hend : ∀ call ∈ Trace.reads o.trace, call.answer ≠ .ok []) : deadline ≤ o.state.clock := by
  induction h generalizing inForce with
  | full h =>
    -- The content of a full buffer is not short.
    obtain rfl := Except.ok.inj hok
    rw [Buffer.length_content] at hshort
    exact absurd hshort (Nat.not_lt.2 h)
  | late hroom h => exact h
  | refused hroom htime harmed h => exact absurd hok (by simp)
  | ended turn h => exact absurd h (hend _ List.mem_cons_self)
  | data turn h hne fits rest ih =>
    refine ih (turn.forall_paced hwait).2 hok ?_ ?_
    · rwa [Buffer.size_store]
    · exact fun call hcall => hend call (List.mem_cons_of_mem _ hcall)
  | @timedOut b d armed answered e turn h hkind =>
    -- The read has waited for all the time that was left.
    have htimedOut : Trace.timedOut answered.call := by
      rw [Trace.timedOut, h]
      exact decide_eq_true hkind
    have hwhole : armed.call.asked ≤ answered.call.took :=
      (turn.forall_paced (t := [_]) hwait).1 htimedOut
    have hexact := turn.asksTimeLeft.exact
    rw [turn.start_eq] at hexact
    show deadline ≤ answered.device.clock
    rw [turn.clock_eq]
    omega
  | interrupted turn h hkind again ih =>
    refine ih (turn.forall_paced hwait).2 hok hshort ?_
    exact fun call hcall => hend call (List.mem_cons_of_mem _ hcall)
  | failed turn h htimedOut hinterrupted => exact absurd hok (by simp)

end Collecting

end Device

/-! ## Reading a reply -/

namespace Connection

/-- **The deadline covers the whole read.**  A reply is due when the time for it, in milliseconds,
is over since the reading began.  Timeouts are set only before that, and each asks for exactly the
time that is left; so it is positive, never more than the time for a reply, and never more than the
one before.  If timeouts are set at once and no read takes longer than the timeout in force, the
reading ends by the deadline, whatever it comes to.  If no read times out before the timeout in
force is over, a reply that is shorter than the settings allow and was not ended by the end of the
stream is there only once the clock has reached the deadline. -/
theorem readReply_keeps_deadline (c : Connection) :
    let due := c.device.clock + 1000 * c.config.timeoutMs
    (∀ call ∈ Trace.timeouts c.readReply.trace,
        AsksTimeLeft c.device.clock due call ∧
          0 < call.asked ∧ call.asked ≤ 1000 * c.config.timeoutMs) ∧
      (Trace.timeouts c.readReply.trace).Pairwise
        (fun earlier later => later.asked ≤ earlier.asked) ∧
      ((∀ call ∈ Trace.timeouts c.readReply.trace, call.took = 0) →
        (∀ p ∈ Trace.paced 0 c.readReply.trace, p.2.took ≤ p.1) →
        c.readReply.state.device.clock ≤ due) ∧
      ((∀ p ∈ Trace.paced 0 c.readReply.trace, WaitsOut p) →
        ∀ r, c.readReply.result = .ok r → r.length < c.config.maxReply →
        (∀ call ∈ Trace.reads c.readReply.trace, call.answer ≠ .ok []) →
        due ≤ c.readReply.state.device.clock) := by
  intro due
  have hcollecting := Device.collect_collecting c.deadline (.blank c.config.maxReply) c.device
  rw [trace_readReply, device_readReply]
  refine ⟨?_, hcollecting.timeouts_antitone, ?_, ?_⟩
  · intro call hcall
    have hleft := hcollecting.timeouts_timeLeft call hcall
    refine ⟨hleft, hleft.asked_pos, ?_⟩
    have hasked := hleft.asked_le
    rwa [deadline, Config.timeout, Nat.add_sub_cancel_left] at hasked
  · exact fun hset hread => hcollecting.clock_le_deadline (Nat.le_add_right _ _) hset hread
  · intro hwait r hreply hshort hend
    cases hres : c.collected.result with
    | ok bytes =>
      rw [readReply_of_collected hres] at hreply
      obtain rfl := Except.ok.inj hreply
      refine hcollecting.deadline_le_clock hwait hres ?_ hend
      rwa [Buffer.size_blank]
    | error e =>
      rw [readReply_of_lost hres] at hreply
      cases hreply

/-- A connection with a millisecond for eight bytes, over a device that delivers one byte, is
interrupted, and then waits in vain. -/
def trickling : Connection :=
  .ofDevice ⟨"", 115200, 1, 8⟩
    ⟨5, [⟨300, .ok [1]⟩, ⟨200, .error (.ofKind .interrupted)⟩, ⟨500, .error .timedOut⟩], [], []⟩

/-- The timeouts shrink with the time that is left, and the short reply ends at the deadline. -/
theorem clock_trickling :
    (Trace.timeouts trickling.readReply.trace).map Call.asked = [1000, 700, 500] ∧
      trickling.readReply.result = .ok ⟨[1]⟩ ∧
      trickling.readReply.state.device.clock = 1005 := by
  obtain ⟨-, -, hkept, hreached⟩ := readReply_keeps_deadline trickling
  refine ⟨by decide +kernel, by decide +kernel, Nat.le_antisymm ?_ ?_⟩
  · exact hkept (by decide +kernel) (by decide +kernel)
  · exact hreached (by decide +kernel) ⟨[1]⟩ (by decide +kernel) (by decide) (by decide +kernel)

end Connection

end VersionProbe
