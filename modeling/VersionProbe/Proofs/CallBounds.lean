/-
# How many calls the reading of a reply makes

The reading of a reply calls the device by turns: it sets the timeout, and then reads.  Every read
but the last one brings bytes or is interrupted.  There are no more reads that bring bytes than
bytes are wanted, but nothing limits the number of interruptions except time: if each of these reads
takes a microsecond or more, there are no more reads than microseconds to the deadline, whatever the
device has in store.

* `Collecting.alternating`, `Collecting.readsArmed` : the order of the calls.
* `Collecting.length_reads_le` : each read but the last brings bytes or is interrupted.
* `Collecting.length_reads_le_time` : the deadline bounds the number of reads.
* `readReply_calls_bounded` : what follows for the reading of a reply.
-/
import VersionProbe.Proofs.Conservation

namespace VersionProbe

namespace Trace

/-! ## The order of the calls -/

/-- `Alternating t` says that a trace consists of calls that set the timeout and of read calls by
turns, and begins with one that sets the timeout. -/
inductive Alternating : Trace → Prop
  /-- There may be no call at all. -/
  | nil : Alternating []
  /-- The last turn may be without a read. -/
  | last (armed : Call Nat (Except SerialError Unit)) : Alternating [.setTimeout armed]
  /-- A turn comes before other turns. -/
  | turn (armed : Call Nat (Except SerialError Unit))
      (answered : Call Nat (Except IoError (List UInt8))) {t : Trace} (later : Alternating t) :
      Alternating (.setTimeout armed :: .read answered :: t)

/-- Calls by turns are at most two for each read, and one. -/
theorem Alternating.length_le {t : Trace} (h : Alternating t) :
    t.length ≤ 2 * (reads t).length + 1 := by
  induction h with
  | nil => exact Nat.zero_le _
  | last armed => exact Nat.le_refl 1
  | @turn armed answered t later ih =>
    show t.length + 2 ≤ 2 * ((reads t).length + 1) + 1
    omega

/-- `ReadsArmed t` says that directly before each read call of a trace stands a call that has set
the timeout. -/
def ReadsArmed (t : Trace) : Prop :=
  ∀ before call after, t = before ++ .read call :: after →
    ∃ earlier armed, before = earlier ++ [.setTimeout armed] ∧ armed.answer = .ok ()

/-- Without read calls there is none that comes without a timeout. -/
theorem readsArmed_of_no_reads {t : Trace} (h : ∀ call, Effect.read call ∉ t) : ReadsArmed t := by
  intro before call after hsplit
  refine absurd ?_ (h call)
  rw [hsplit]
  exact List.mem_append_right _ List.mem_cons_self

/-- A turn whose timeout is accepted may come before the others. -/
theorem readsArmed_cons {armed : Call Nat (Except SerialError Unit)}
    (haccepted : armed.answer = .ok ()) (answered : Call Nat (Except IoError (List UInt8)))
    {t : Trace} (ht : ReadsArmed t) : ReadsArmed (.setTimeout armed :: .read answered :: t) := by
  intro before call after hsplit
  match before with
  | [] => cases hsplit
  | [first] =>
    obtain ⟨rfl, -⟩ := List.cons.inj hsplit
    exact ⟨[], armed, rfl, haccepted⟩
  | first :: second :: before =>
    obtain ⟨rfl, hrest⟩ := List.cons.inj hsplit
    obtain ⟨rfl, hlater⟩ := List.cons.inj hrest
    obtain ⟨earlier, armed', rfl, haccepted'⟩ := ht before call after hlater
    exact ⟨.setTimeout armed :: .read answered :: earlier, armed', rfl, haccepted'⟩

/-- A log entry may come before the others. -/
theorem readsArmed_log (entry : LogEntry) {t : Trace} (ht : ReadsArmed t) :
    ReadsArmed (.log entry :: t) := by
  intro before call after hsplit
  cases before with
  | nil => cases hsplit
  | cons first before =>
    obtain ⟨rfl, hlater⟩ := List.cons.inj hsplit
    obtain ⟨earlier, armed, rfl, haccepted⟩ := ht before call after hlater
    exact ⟨.log entry :: earlier, armed, rfl, haccepted⟩

/-! ## The number of the calls -/

/-- Whether a read call has brought bytes. -/
def hasArrived (call : Call Nat (Except IoError (List UInt8))) : Bool :=
  !(arrived call).isEmpty

/-- Whether a read call was interrupted. -/
def interrupted (call : Call Nat (Except IoError (List UInt8))) : Bool :=
  match call.answer with
  | .ok _ => false
  | .error e => e.kind = .interrupted

/-- A read call that is answered with some bytes has brought bytes. -/
theorem hasArrived_of_bytes {call : Call Nat (Except IoError (List UInt8))} {bytes : List UInt8}
    (h : call.answer = .ok bytes) (hne : bytes ≠ []) : hasArrived call = true := by
  unfold hasArrived
  rw [arrived_of_ok h, List.isEmpty_eq_false_iff.2 hne]
  rfl

/-- A read call that fails by being interrupted was interrupted. -/
theorem interrupted_of_error {call : Call Nat (Except IoError (List UInt8))} {e : IoError}
    (h : call.answer = .error e) (hkind : e.kind = .interrupted) : interrupted call = true := by
  unfold interrupted
  rw [h]
  exact decide_eq_true hkind

/-- There are no more read calls that bring bytes than bytes. -/
theorem countP_hasArrived_le (calls : List (Call Nat (Except IoError (List UInt8)))) :
    calls.countP hasArrived ≤ (calls.flatMap arrived).length := by
  induction calls with
  | nil => exact Nat.le_refl 0
  | cons call rest ih =>
    rw [List.countP_cons, List.flatMap_cons, List.length_append]
    split
    · next h =>
      have hsome : (arrived call).length ≠ 0 := by
        intro hnone
        rw [hasArrived, List.eq_nil_of_length_eq_zero hnone] at h
        cases h
      omega
    · omega

/-- `CountsTurns calls` says that all of some read calls but one have brought bytes or were
interrupted, or even all of them. -/
def CountsTurns (calls : List (Call Nat (Except IoError (List UInt8)))) : Prop :=
  calls.length ≤ calls.countP hasArrived + calls.countP interrupted + 1

/-- A read call that has brought bytes or was interrupted may come before the others. -/
theorem countsTurns_cons {call : Call Nat (Except IoError (List UInt8))}
    {calls : List (Call Nat (Except IoError (List UInt8)))}
    (honward : hasArrived call = true ∨ interrupted call = true) (hlater : CountsTurns calls) :
    CountsTurns (call :: calls) := by
  unfold CountsTurns at *
  rw [List.length_cons, List.countP_cons, List.countP_cons]
  rcases honward with harrived | hinterrupted
  · rw [if_pos harrived]
    omega
  · rw [if_pos hinterrupted]
    omega

/-- One read call may be of any kind. -/
theorem countsTurns_singleton (call : Call Nat (Except IoError (List UInt8))) :
    CountsTurns [call] :=
  Nat.le_add_left 1 _

end Trace

/-! ## The loop -/

namespace Device

section Collecting

variable {deadline : Nat} {b : Buffer} {d : Device} {o : Outcome Device IoError (List UInt8)}
  {armed : Answered Nat (Except SerialError Unit)}
  {answered : Answered Nat (Except IoError (List UInt8))}

/-- The calls of the loop set the timeout and read by turns. -/
theorem Collecting.alternating (h : Collecting deadline b d o) :
    Trace.Alternating (Trace.contacts o.trace) := by
  induction h with
  | full h => exact .nil
  | late hroom h => exact .nil
  | refused hroom htime harmed h => exact .last _
  | ended turn h => exact .turn _ _ .nil
  | data turn h hne fits rest ih => exact .turn _ _ ih
  | timedOut turn h hkind => exact .turn _ _ .nil
  | interrupted turn h hkind again ih => exact .turn _ _ ih
  | failed turn h htimedOut hinterrupted => exact .turn _ _ .nil

/-- Directly before each read of the loop the timeout is set for it. -/
theorem Collecting.readsArmed (h : Collecting deadline b d o) : Trace.ReadsArmed o.trace := by
  have hlog : ∀ entry, Trace.ReadsArmed [.log entry] := by
    intro entry
    apply Trace.readsArmed_of_no_reads
    simp
  induction h with
  | full h => exact Trace.readsArmed_of_no_reads (by simp)
  | late hroom h => exact hlog _
  | refused hroom htime harmed h => exact Trace.readsArmed_of_no_reads (by simp)
  | ended turn h => exact Trace.readsArmed_cons turn.accepted _ (hlog _)
  | data turn h hne fits rest ih =>
    exact Trace.readsArmed_cons turn.accepted _ (Trace.readsArmed_log _ ih)
  | timedOut turn h hkind => exact Trace.readsArmed_cons turn.accepted _ (hlog _)
  | interrupted turn h hkind again ih => exact Trace.readsArmed_cons turn.accepted _ ih
  | failed turn h htimedOut hinterrupted =>
    exact Trace.readsArmed_cons turn.accepted _ (Trace.readsArmed_of_no_reads (by simp))

/-- Each read of the loop but the last one brings bytes or is interrupted. -/
theorem Collecting.length_reads_le (h : Collecting deadline b d o) :
    Trace.CountsTurns (Trace.reads o.trace) := by
  induction h with
  | full h => exact Nat.zero_le _
  | late hroom h => exact Nat.zero_le _
  | refused hroom htime harmed h => exact Nat.zero_le _
  | ended turn h => exact Trace.countsTurns_singleton _
  | data turn h hne fits rest ih =>
    exact Trace.countsTurns_cons (Or.inl (Trace.hasArrived_of_bytes h hne)) ih
  | timedOut turn h hkind => exact Trace.countsTurns_singleton _
  | interrupted turn h hkind again ih =>
    exact Trace.countsTurns_cons (Or.inr (Trace.interrupted_of_error h hkind)) ih
  | failed turn h htimedOut hinterrupted => exact Trace.countsTurns_singleton _

/-- A turn whose read takes time leaves less time for the others. -/
theorem Turn.succ_le_time (turn : Turn deadline b d armed answered) (htook : 1 ≤ answered.call.took)
    {n : Nat} (hlater : n ≤ deadline - answered.device.clock) : n + 1 ≤ deadline - d.clock := by
  have htime := turn.time
  rw [turn.clock_eq] at hlater
  omega

/-- If each read that brings bytes or is interrupted takes a microsecond or more, there are no more
reads than microseconds to the deadline. -/
theorem Collecting.length_reads_le_time (h : Collecting deadline b d o)
    (htook : ∀ call ∈ Trace.reads o.trace,
      Trace.hasArrived call = true ∨ Trace.interrupted call = true → 1 ≤ call.took) :
    (Trace.reads o.trace).length ≤ deadline - d.clock := by
  induction h with
  | full h => exact Nat.zero_le _
  | late hroom h => exact Nat.zero_le _
  | refused hroom htime harmed h => exact Nat.zero_le _
  | ended turn h => exact Nat.sub_pos_of_lt turn.time
  | data turn h hne fits rest ih =>
    have hfirst := htook _ List.mem_cons_self (Or.inl (Trace.hasArrived_of_bytes h hne))
    apply turn.succ_le_time hfirst
    apply ih
    exact fun call hcall => htook call (List.mem_cons_of_mem _ hcall)
  | timedOut turn h hkind => exact Nat.sub_pos_of_lt turn.time
  | interrupted turn h hkind again ih =>
    have hfirst := htook _ List.mem_cons_self (Or.inr (Trace.interrupted_of_error h hkind))
    apply turn.succ_le_time hfirst
    apply ih
    exact fun call hcall => htook call (List.mem_cons_of_mem _ hcall)
  | failed turn h htimedOut hinterrupted => exact Nat.sub_pos_of_lt turn.time

end Collecting

end Device

/-! ## The reading of a reply -/

namespace Connection

/-- `CallsBounded config t` says of the trace of the reading of a reply by some settings in which
order the device is called, and how often at most. -/
structure CallsBounded (config : Config) (t : Trace) : Prop where
  /-- The calls set the timeout and read by turns, beginning with a timeout. -/
  alternating : Trace.Alternating (Trace.contacts t)
  /-- Directly before each read the timeout is set for it. -/
  armed : Trace.ReadsArmed t
  /-- Besides these two for each read, at most one call is made. -/
  contacts : (Trace.contacts t).length ≤ 2 * (Trace.reads t).length + 1
  /-- Each read but one brings bytes or is interrupted. -/
  reads : (Trace.reads t).length
    ≤ (Trace.reads t).countP Trace.hasArrived + (Trace.reads t).countP Trace.interrupted + 1
  /-- No more reads bring bytes than bytes are wanted. -/
  chunks : (Trace.reads t).countP Trace.hasArrived ≤ config.maxReply
  /-- If each of these reads takes a microsecond or more, there are no more reads than microseconds
  for a reply. -/
  time : (∀ call ∈ Trace.reads t,
      Trace.hasArrived call = true ∨ Trace.interrupted call = true → 1 ≤ call.took) →
    (Trace.reads t).length ≤ 1000 * config.timeoutMs

/-- **The reading of a reply ends, within a bound on the calls.**  Over any connection, the device
is called by turns, to set the timeout and directly after that to read.  There are at most as many
reads as bring bytes or are interrupted, and one; and of those that bring bytes at most as many as
bytes are wanted.  If each of these reads takes a microsecond or more, there are no more reads than
microseconds for a reply, however many answers the device has in store. -/
theorem readReply_calls_bounded (c : Connection) : CallsBounded c.config c.readReply.trace := by
  have hcollecting := Device.collect_collecting c.deadline (.blank c.config.maxReply) c.device
  rw [trace_readReply]
  have halternating := hcollecting.alternating
  refine ⟨halternating, hcollecting.readsArmed, ?_, hcollecting.length_reads_le, ?_, ?_⟩
  · have hlength := halternating.length_le
    have hreads :
        Trace.reads (Trace.contacts c.collected.trace) = Trace.reads c.collected.trace := by
      apply Trace.filterMap_contacts
      intro effect h
      cases effect with
      | read call => cases h
      | _ => rfl
    rw [← hreads]
    exact hlength
  · have hroom := hcollecting.length_delivered_le
    rw [Buffer.room_blank] at hroom
    exact Nat.le_trans (Trace.countP_hasArrived_le _) hroom
  · intro htook
    have htime := hcollecting.length_reads_le_time htook
    rwa [deadline, Nat.add_sub_cancel_left, Config.timeout] at htime

/-- A connection with a millisecond for a reply, over a device that is going to be interrupted a
hundred times, each time after 300 microseconds. -/
def interrupting : Connection :=
  .ofDevice ⟨"", 115200, 1, 8⟩
    ⟨0, List.replicate 100 ⟨300, .error (.ofKind .interrupted)⟩, [], []⟩

/-- Four interruptions reach the deadline, far below the number of microseconds. -/
theorem calls_interrupting :
    (Trace.reads interrupting.readReply.trace).length ≤ 1000 ∧
      (Trace.reads interrupting.readReply.trace).map Call.start = [0, 300, 600, 900] ∧
      interrupting.readReply.result = .ok .empty := by
  refine ⟨?_, by decide +kernel, by decide +kernel⟩
  apply (readReply_calls_bounded interrupting).time
  decide +kernel

end Connection

end VersionProbe
