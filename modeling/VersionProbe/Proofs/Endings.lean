/-
# How the reading of a reply ends

The reading of a reply goes in turns, and what becomes of it can be told from what the device is
going to answer.  A turn is made as long as there is room and time; its two calls either let the
reading go on, end the reply, or lose it.  The first turn that does not let the reading go on
decides: a reply is lost exactly if a call loses it before there are enough bytes, before the
deadline, and before anything ends the reply.

* `Turn.turning_eq` : a turn goes as the device's next answers have it.
* `Collecting.decided` : the invariant of the loop.
* `Reaches.unique` : at most one turn decides.
* `readReply_concludes` : when the reading of a reply fails, and what it comes to when it does not.
-/
import Mathlib
import VersionProbe.Proofs.Counters

namespace VersionProbe

/-! ## Turns -/

/-- What a turn does to the reading of a reply: it lets it go on, ends the reply, or loses it. -/
inductive Turning
  | onward
  | ended
  | lost (e : IoError)
deriving DecidableEq

/-- What the answer to a read does to the reading of a reply: bytes and an interruption let it go
on, the end of the stream and a timeout end the reply, and any other failure loses it. -/
def Turning.ofRead : Except IoError (List UInt8) → Turning
  | .ok [] => .ended
  | .ok (_ :: _) => .onward
  | .error e =>
    if e.kind = .timedOut then .ended else if e.kind = .interrupted then .onward else .lost e

namespace Turning

variable {e : IoError}

/-- The end of the stream ends the reply. -/
theorem ofRead_end : ofRead (.ok []) = .ended := rfl

/-- Bytes let the reading go on. -/
theorem ofRead_bytes {bytes : List UInt8} (hne : bytes ≠ []) : ofRead (.ok bytes) = .onward := by
  obtain ⟨first, rest, rfl⟩ := List.exists_cons_of_ne_nil hne
  rfl

/-- A timeout ends the reply. -/
theorem ofRead_timedOut (hkind : e.kind = .timedOut) : ofRead (.error e) = .ended :=
  if_pos hkind

/-- An interruption lets the reading go on. -/
theorem ofRead_interrupted (hkind : e.kind = .interrupted) : ofRead (.error e) = .onward := by
  rw [ofRead, hkind]
  rfl

/-- Any other failure loses the reply. -/
theorem ofRead_failure (htimedOut : e.kind ≠ .timedOut) (hinterrupted : e.kind ≠ .interrupted) :
    ofRead (.error e) = .lost e := by
  rw [ofRead, if_neg htimedOut, if_neg hinterrupted]

/-- How much room there is does not matter for what a read does, if there is some. -/
theorem ofRead_map_take {room : Nat} (hroom : 0 < room)
    (answer : Except IoError (List UInt8)) :
    ofRead (answer.map (List.take room)) = ofRead answer := by
  obtain ⟨n, rfl⟩ := Nat.exists_eq_succ_of_ne_zero (Nat.ne_of_gt hroom)
  match answer with
  | .error e => rfl
  | .ok [] => rfl
  | .ok (first :: rest) => rfl

end Turning

namespace Device

/-- The answer to the next call that sets the timeout. -/
def nextTimeout (d : Device) : Except SerialError Unit :=
  match d.timeouts with
  | [] => .ok ()
  | step :: _ => step.answer

/-- The answer to the next read, if there is room for all of it. -/
def nextRead (d : Device) : Except IoError (List UInt8) :=
  match d.reads with
  | [] => .error .timedOut
  | step :: _ => step.answer

/-- What the next turn does to the reading of a reply: a timeout that is refused, for whatever
reason, loses it, and otherwise the read decides. -/
def turning (d : Device) : Turning :=
  match d.nextTimeout with
  | .error e => .lost e.toIoError
  | .ok () => Turning.ofRead d.nextRead

/-- A device after some turns: their answers are used up, and the time that they took has passed. -/
def afterTurns (k : Nat) (d : Device) : Device :=
  { d with
    clock := d.clock + ((d.timeouts.take k).map TimeoutStep.advance).sum
      + ((d.reads.take k).map ReadStep.advance).sum
    reads := d.reads.drop k
    timeouts := d.timeouts.drop k }

/-- The bytes that the reads of the first turns have to offer. -/
def brought (k : Nat) (d : Device) : List UInt8 :=
  (d.reads.take k).flatMap ReadStep.bytes

section Shift

variable (k : Nat) (d : Device)

/-- Before the first turn nothing has been brought. -/
theorem brought_zero : d.brought 0 = [] := rfl

/-- The turns that follow a first one come after it. -/
theorem afterTurns_succ : d.afterTurns (k + 1) = (d.afterTurns 1).afterTurns k := by
  unfold afterTurns
  rw [Nat.add_comm k 1, List.take_add, List.take_add, List.map_append, List.map_append,
    List.sum_append, List.sum_append, List.drop_drop, List.drop_drop]
  simp only [Device.mk.injEq, and_true]
  omega

/-- The first turn brings its bytes before the others. -/
theorem brought_succ : d.brought (k + 1) = d.brought 1 ++ (d.afterTurns 1).brought k := by
  rw [brought, Nat.add_comm, List.take_add, List.flatMap_append]
  rfl

end Shift

/-! ## The turn that decides -/

/-- `Passes room deadline d k` says that turn `k` with a device, counted from zero and with so much
room before the first one, is made, as there is room and time, and lets the reading of a reply go
on. -/
def Passes (room deadline : Nat) (d : Device) (k : Nat) : Prop :=
  (d.brought k).length < room ∧ (d.afterTurns k).clock < deadline ∧
    (d.afterTurns k).turning = .onward

/-- `Reaches room deadline d k` says that all turns before turn `k` let the reading of a reply go
on. -/
def Reaches (room deadline : Nat) (d : Device) (k : Nat) : Prop :=
  ∀ j < k, Passes room deadline d j

/-- `LostAt room deadline d k e` says that turn `k` is reached and made, as there is room and time,
and that it loses the reply with the error `e`. -/
structure LostAt (room deadline : Nat) (d : Device) (k : Nat) (e : IoError) : Prop where
  reached : Reaches room deadline d k
  room : (d.brought k).length < room
  time : (d.afterTurns k).clock < deadline
  lost : (d.afterTurns k).turning = .lost e

/-- `EndedAt room deadline d k` says that turn `k` is reached, and that the reply is over by then: it
has enough bytes, the deadline has passed, or the turn ends it. -/
structure EndedAt (room deadline : Nat) (d : Device) (k : Nat) : Prop where
  reached : Reaches room deadline d k
  ended : room ≤ (d.brought k).length ∨ deadline ≤ (d.afterTurns k).clock ∨
    (d.afterTurns k).turning = .ended

section Deciding

variable {room deadline k k' : Nat} {d : Device} {e e' : IoError}

/-- No turn comes before the first. -/
theorem reaches_zero : Reaches room deadline d 0 :=
  fun j hj => absurd hj (Nat.not_lt_zero j)

/-- After a first turn that lets the reading go on, the others have the room that it leaves. -/
theorem reaches_succ (hroom : 0 < room) (htime : d.clock < deadline) (honward : d.turning = .onward)
    (hlater : Reaches (room - (d.brought 1).length) deadline (d.afterTurns 1) k) :
    Reaches room deadline d (k + 1) := by
  intro j hj
  cases j with
  | zero => exact ⟨hroom, htime, honward⟩
  | succ j =>
    obtain ⟨hroom', htime', honward'⟩ := hlater j (Nat.lt_of_succ_lt_succ hj)
    rw [Passes, afterTurns_succ, brought_succ, List.length_append]
    exact ⟨by omega, htime', honward'⟩

/-- A turn that loses the reply after a first one loses it. -/
theorem lostAt_succ (hroom : 0 < room) (htime : d.clock < deadline) (honward : d.turning = .onward)
    (hlater : LostAt (room - (d.brought 1).length) deadline (d.afterTurns 1) k e) :
    LostAt room deadline d (k + 1) e where
  reached := reaches_succ hroom htime honward hlater.reached
  room := by
    have hleft := hlater.room
    rw [brought_succ, List.length_append]
    omega
  time := by
    rw [afterTurns_succ]
    exact hlater.time
  lost := by
    rw [afterTurns_succ]
    exact hlater.lost

/-- A reply that is over some turns after a first one is over. -/
theorem endedAt_succ (hroom : 0 < room) (htime : d.clock < deadline) (honward : d.turning = .onward)
    (hlater : EndedAt (room - (d.brought 1).length) deadline (d.afterTurns 1) k) :
    EndedAt room deadline d (k + 1) where
  reached := reaches_succ hroom htime honward hlater.reached
  ended := by
    rw [afterTurns_succ, brought_succ, List.length_append]
    exact hlater.ended.imp_left fun hleft => by omega

/-- A turn that loses the reply does not let the reading go on. -/
theorem LostAt.not_passes (h : LostAt room deadline d k e) : ¬ Passes room deadline d k := by
  rintro ⟨-, -, honward⟩
  rw [h.lost] at honward
  cases honward

/-- A turn at which the reply is over does not let the reading go on. -/
theorem EndedAt.not_passes (h : EndedAt room deadline d k) : ¬ Passes room deadline d k := by
  rintro ⟨hroom, htime, honward⟩
  rcases h.ended with hfull | hlate | hended
  · exact Nat.not_le.2 hroom hfull
  · exact Nat.not_le.2 htime hlate
  · rw [hended] at honward
    cases honward

/-- Only one turn is reached that does not let the reading go on. -/
theorem Reaches.unique (h : Reaches room deadline d k) (hstop : ¬ Passes room deadline d k)
    (h' : Reaches room deadline d k') (hstop' : ¬ Passes room deadline d k') : k = k' := by
  rcases Nat.lt_trichotomy k k' with hless | hsame | hmore
  · exact absurd (h' k hless) hstop
  · exact hsame
  · exact absurd (h k' hmore) hstop'

/-- Only one turn loses the reply, and with one error. -/
theorem LostAt.unique (h : LostAt room deadline d k e) (h' : LostAt room deadline d k' e') :
    e = e' := by
  obtain rfl := h.reached.unique h.not_passes h'.reached h'.not_passes
  exact Turning.lost.inj (h.lost.symm.trans h'.lost)

/-- A reply that some turn loses is at no turn over. -/
theorem LostAt.not_ended (h : LostAt room deadline d k e) : ¬ EndedAt room deadline d k' := by
  intro h'
  obtain rfl := h.reached.unique h.not_passes h'.reached h'.not_passes
  rcases h'.ended with hfull | hlate | hended
  · exact Nat.not_le.2 h.room hfull
  · exact Nat.not_le.2 h.time hlate
  · rw [h.lost] at hended
    cases hended

end Deciding

/-! ## Turns of the loop -/

section Turn

variable {deadline : Nat} {b : Buffer} {d : Device}
  {armed : Answered Nat (Except SerialError Unit)}
  {answered : Answered Nat (Except IoError (List UInt8))}

/-- Setting the timeout is answered as the device has it. -/
theorem setTimeout_answer (timeout : Nat) (d : Device) :
    (d.setTimeout timeout).call.answer = d.nextTimeout := by
  unfold setTimeout nextTimeout
  cases d.timeouts <;> rfl

/-- A read is answered as the device has it, as far as there is room. -/
theorem read_answer (room : Nat) (d : Device) :
    (d.read room).call.answer = d.nextRead.map (List.take room) := by
  unfold read nextRead
  match d.reads with
  | [] => rfl
  | ⟨advance, .error e⟩ :: rest => rfl
  | ⟨advance, .ok bytes⟩ :: rest => rfl

/-- A read brings what the device has to offer next, as far as there is room. -/
theorem arrived_read (room : Nat) (d : Device) :
    Trace.arrived (d.read room).call = (d.brought 1).take room := by
  unfold read brought
  cases d.reads with
  | nil => exact List.take_nil.symm
  | cons step rest =>
    obtain ⟨advance, answer⟩ := step
    cases answer with
    | error e => exact List.take_nil.symm
    | ok bytes => exact congrArg (List.take room) (List.append_nil bytes).symm

/-- Setting the timeout uses up one answer. -/
theorem setTimeout_device (timeout : Nat) (d : Device) :
    (d.setTimeout timeout).device
      = { d with
          clock := d.clock + ((d.timeouts.take 1).map TimeoutStep.advance).sum
          timeouts := d.timeouts.drop 1 } := by
  unfold setTimeout
  obtain ⟨clock, reads, writes, timeouts⟩ := d
  cases timeouts <;> rfl

/-- A read uses up one answer if there is room for all that it has to offer. -/
theorem read_device {room : Nat} {d : Device} (hfits : (d.brought 1).length ≤ room) :
    (d.read room).device
      = { d with
          clock := d.clock + ((d.reads.take 1).map ReadStep.advance).sum
          reads := d.reads.drop 1 } := by
  unfold read
  obtain ⟨clock, reads, writes, timeouts⟩ := d
  match reads with
  | [] => rfl
  | ⟨advance, .error e⟩ :: rest => rfl
  | ⟨advance, .ok bytes⟩ :: rest =>
    have hall : bytes.drop room = [] := by
      refine List.drop_eq_nil_iff.2 ?_
      simpa [brought, ReadStep.bytes] using hfits
    have hnone : ReadStep.leftover room bytes = [] := by rw [ReadStep.leftover, hall]
    simp only [hnone]
    rfl

/-- A timeout that is refused loses the reply. -/
theorem turning_of_refused {e : SerialError} (harmed : d.setTimeout (deadline - d.clock) = armed)
    (h : armed.call.answer = .error e) : d.turning = .lost e.toIoError := by
  have hrefused : d.nextTimeout = .error e := by
    rw [← setTimeout_answer (deadline - d.clock), harmed, h]
  rw [turning, hrefused]

/-- A turn goes as the device's next answers have it. -/
theorem Turn.turning_eq (turn : Turn deadline b d armed answered) :
    d.turning = Turning.ofRead answered.call.answer := by
  have haccepted : d.nextTimeout = .ok () := by
    rw [← setTimeout_answer (deadline - d.clock), turn.arming, turn.accepted]
  have hnext : armed.device.nextRead = d.nextRead := by
    rw [← turn.arming, nextRead, setTimeout_reads, nextRead]
  rw [turning, haccepted, ← turn.reading, read_answer, hnext, Turning.ofRead_map_take turn.room_pos]

/-- A turn brings what its read has to offer, as far as there is room. -/
theorem Turn.arrived_eq (turn : Turn deadline b d armed answered) :
    Trace.arrived answered.call = (d.brought 1).take b.room := by
  have hreads : armed.device.reads = d.reads := by rw [← turn.arming, setTimeout_reads]
  rw [← turn.reading, arrived_read, brought, hreads, brought]

/-- A turn that has room for all that its read has to offer uses up one answer of either kind. -/
theorem Turn.device_eq (turn : Turn deadline b d armed answered)
    (hfits : (d.brought 1).length ≤ b.room) : answered.device = d.afterTurns 1 := by
  have hreads : armed.device.reads = d.reads := by rw [← turn.arming, setTimeout_reads]
  have hfits' : (armed.device.brought 1).length ≤ b.room := by rwa [brought, hreads]
  rw [← turn.reading, read_device hfits', ← turn.arming, setTimeout_device]
  rfl

/-- A turn either has room for all that the device has to offer next, and uses it up, or fills all
the room there is and leaves none. -/
theorem Turn.fits_or_fills (turn : Turn deadline b d armed answered) :
    (Trace.arrived answered.call = d.brought 1 ∧ (d.brought 1).length ≤ b.room ∧
        answered.device = d.afterTurns 1) ∨
      (Trace.arrived answered.call = (d.brought 1).take b.room ∧
        b.room ≤ (d.brought 1).length ∧ b.room - (Trace.arrived answered.call).length = 0) := by
  have harrived := turn.arrived_eq
  rcases Nat.le_total (d.brought 1).length b.room with hfits | hfills
  · left
    rw [List.take_of_length_le hfits] at harrived
    exact ⟨harrived, hfits, turn.device_eq hfits⟩
  · refine Or.inr ⟨harrived, hfills, ?_⟩
    rw [harrived, List.length_take_of_le hfills, Nat.sub_self]

/-- A turn that brings bytes lets the reading go on. -/
theorem Turn.onward_of_bytes (turn : Turn deadline b d armed answered) {bytes : List UInt8}
    (h : answered.call.answer = .ok bytes) (hne : bytes ≠ []) : d.turning = .onward := by
  rw [turn.turning_eq, h, Turning.ofRead_bytes hne]

/-- A turn whose read is interrupted lets the reading go on. -/
theorem Turn.onward_of_interrupted (turn : Turn deadline b d armed answered) {e : IoError}
    (h : answered.call.answer = .error e) (hkind : e.kind = .interrupted) :
    d.turning = .onward := by
  rw [turn.turning_eq, h, Turning.ofRead_interrupted hkind]

end Turn

/-! ## What the loop comes to -/

/-- `Decided room deadline d content result` says that `result` is what comes of the turns with a
device, with so much room and with some content collected already: either a turn loses the reply,
or the reply is over at some turn and consists of the content and what the turns before have
brought. -/
def Decided (room deadline : Nat) (d : Device) (content : List UInt8) :
    Except IoError (List UInt8) → Prop
  | .error e => ∃ k, LostAt room deadline d k e
  | .ok bytes => ∃ k, EndedAt room deadline d k ∧ bytes = content ++ (d.brought k).take room

section Decided

variable {room deadline : Nat} {d : Device} {content : List UInt8}
  {result : Except IoError (List UInt8)}

/-- A reply that is over before a turn lets the reading go on is what has been collected. -/
theorem decided_of_ended
    (h : room = 0 ∨ deadline ≤ d.clock ∨ d.turning = .ended) :
    Decided room deadline d content (.ok content) := by
  refine ⟨0, ⟨reaches_zero, h.imp_left fun hnone => ?_⟩, ?_⟩
  · rw [hnone]
    exact Nat.zero_le _
  · rw [brought_zero, List.take_nil, List.append_nil]

/-- What comes of the turns after a first one comes of all of them, if the first one lets the
reading go on and there is room for all that it brings. -/
theorem decided_succ (hroom : 0 < room) (htime : d.clock < deadline) (honward : d.turning = .onward)
    (hfits : (d.brought 1).length ≤ room)
    (hlater : Decided (room - (d.brought 1).length) deadline (d.afterTurns 1)
      (content ++ d.brought 1) result) :
    Decided room deadline d content result := by
  cases result with
  | error e =>
    obtain ⟨k, hlost⟩ := hlater
    exact ⟨k + 1, lostAt_succ hroom htime honward hlost⟩
  | ok bytes =>
    obtain ⟨k, hended, rfl⟩ := hlater
    refine ⟨k + 1, endedAt_succ hroom htime honward hended, ?_⟩
    rw [brought_succ k, List.take_append, List.take_of_length_le hfits, List.append_assoc]

/-- Without room the reply is what has been collected. -/
theorem Decided.of_no_room (h : Decided 0 deadline d content result) : result = .ok content := by
  cases result with
  | error e =>
    obtain ⟨k, hlost⟩ := h
    exact absurd hlost.room (Nat.not_lt_zero _)
  | ok bytes =>
    obtain ⟨k, -, rfl⟩ := h
    rw [List.take_zero, List.append_nil]

end Decided

section Collecting

variable {deadline : Nat} {b : Buffer} {d : Device} {o : Outcome Device IoError (List UInt8)}
  {armed : Answered Nat (Except SerialError Unit)}
  {answered : Answered Nat (Except IoError (List UInt8))}

/-- What comes of the turns after one that lets the reading go on comes of all of them. -/
theorem Turn.decided (turn : Turn deadline b d armed answered) (honward : d.turning = .onward)
    {result : Except IoError (List UInt8)}
    (hlater : Decided (b.room - (Trace.arrived answered.call).length) deadline answered.device
      (b.content ++ Trace.arrived answered.call) result) :
    Decided b.room deadline d b.content result := by
  rcases turn.fits_or_fills with ⟨harrived, hfits, hdevice⟩ | ⟨harrived, hfills, hnone⟩
  · rw [harrived, hdevice] at hlater
    exact decided_succ turn.room_pos turn.time honward hfits hlater
  · -- What is brought fills the room, so that the reply is over after this turn.
    rw [hnone] at hlater
    rw [hlater.of_no_room, harrived]
    exact ⟨1, ⟨reaches_succ turn.room_pos turn.time honward reaches_zero, Or.inl hfills⟩, rfl⟩

/-- The invariant of the loop: the collecting of a reply comes to what comes of the turns with the
device. -/
theorem Collecting.decided (h : Collecting deadline b d o) :
    Decided b.room deadline d b.content o.result := by
  induction h with
  | full h => exact decided_of_ended (Or.inl (Nat.sub_eq_zero_of_le h))
  | late hroom h => exact decided_of_ended (Or.inr (Or.inl h))
  | refused hroom htime harmed h =>
    exact ⟨0, reaches_zero, Nat.sub_pos_of_lt hroom, htime, turning_of_refused harmed h⟩
  | ended turn h =>
    refine decided_of_ended (Or.inr (Or.inr ?_))
    rw [turn.turning_eq, h, Turning.ofRead_end]
  | @data b d armed answered bytes o turn h hne fits rest ih =>
    rw [Buffer.room_store, Buffer.content_store, ← Trace.arrived_of_ok h] at ih
    exact turn.decided (turn.onward_of_bytes h hne) ih
  | timedOut turn h hkind =>
    refine decided_of_ended (Or.inr (Or.inr ?_))
    rw [turn.turning_eq, h, Turning.ofRead_timedOut hkind]
  | @interrupted b d armed answered e o turn h hkind again ih =>
    apply turn.decided (turn.onward_of_interrupted h hkind)
    rw [Trace.arrived_of_error h, List.append_nil]
    exact ih
  | @failed b d armed answered e turn h htimedOut hinterrupted =>
    refine ⟨0, reaches_zero, turn.room_pos, turn.time, ?_⟩
    show d.turning = _
    rw [turn.turning_eq, h, Turning.ofRead_failure htimedOut hinterrupted]

end Collecting

end Device

/-! ## The call that loses a reply -/

/-- The error with which a turn loses the reply, if it does so. -/
def Turning.loss? : Turning → Option IoError
  | .onward => none
  | .ended => none
  | .lost e => some e

/-- The error with which a call loses the reply, if it does so. -/
def Effect.loss? : Effect → Option IoError
  | .setTimeout call =>
    match call.answer with
    | .ok () => none
    | .error e => some e.toIoError
  | .read call => (Turning.ofRead call.answer).loss?
  | _ => none

/-- `LosesLast result t` says that, where the result is an error, the last effect of `t` is the
first one to lose the reply, and loses it with this error, and that otherwise no effect of `t` loses
the reply. -/
def Trace.LosesLast (result : Except IoError (List UInt8)) (t : Trace) : Prop :=
  match result with
  | .ok _ => ∀ effect ∈ t, effect.loss? = none
  | .error e => ∃ before last, t = before ++ [last] ∧
      (∀ effect ∈ before, effect.loss? = none) ∧ last.loss? = some e

/-- Effects that do not lose the reply may come before the others. -/
theorem Trace.losesLast_append {result : Except IoError (List UInt8)} {s t : Trace}
    (hs : ∀ effect ∈ s, effect.loss? = none) (ht : LosesLast result t) :
    LosesLast result (s ++ t) := by
  cases result with
  | ok bytes => exact List.forall_mem_append.2 ⟨hs, ht⟩
  | error e =>
    obtain ⟨before, last, rfl, hnone, hlast⟩ := ht
    refine ⟨s ++ before, last, (List.append_assoc _ _ _).symm, ?_, hlast⟩
    exact List.forall_mem_append.2 ⟨hs, hnone⟩

namespace Device

section Collecting

variable {deadline : Nat} {b : Buffer} {d : Device} {o : Outcome Device IoError (List UInt8)}
  {armed : Answered Nat (Except SerialError Unit)}
  {answered : Answered Nat (Except IoError (List UInt8))}

/-- The timeout of a turn does not lose the reply. -/
theorem Turn.loss_arming (turn : Turn deadline b d armed answered) :
    (Effect.setTimeout armed.call).loss? = none := by
  rw [Effect.loss?, turn.accepted]

/-- Where the read of a turn does not lose the reply, no call of the turn does. -/
theorem Turn.loss_calls (turn : Turn deadline b d armed answered) {t : Trace}
    (hread : (Turning.ofRead answered.call.answer).loss? = none)
    (ht : ∀ effect ∈ t, effect.loss? = none) :
    ∀ effect ∈ Effect.setTimeout armed.call :: .read answered.call :: t, effect.loss? = none :=
  List.forall_mem_cons.2 ⟨turn.loss_arming, List.forall_mem_cons.2 ⟨hread, ht⟩⟩

/-- A reply that is lost is lost by the last call, and by no call before. -/
theorem Collecting.losesLast (h : Collecting deadline b d o) : Trace.LosesLast o.result o.trace := by
  induction h with
  | full h => exact List.forall_mem_nil _
  | late hroom h => exact List.forall_mem_singleton.2 rfl
  | refused hroom htime harmed h =>
    refine ⟨[], _, rfl, List.forall_mem_nil _, ?_⟩
    rw [Effect.loss?, h]
  | ended turn h =>
    refine turn.loss_calls ?_ (List.forall_mem_singleton.2 rfl)
    rw [h, Turning.ofRead_end, Turning.loss?]
  | data turn h hne fits rest ih =>
    refine Trace.losesLast_append (turn.loss_calls ?_ (List.forall_mem_singleton.2 rfl)) ih
    rw [h, Turning.ofRead_bytes hne, Turning.loss?]
  | timedOut turn h hkind =>
    refine turn.loss_calls ?_ (List.forall_mem_singleton.2 rfl)
    rw [h, Turning.ofRead_timedOut hkind, Turning.loss?]
  | interrupted turn h hkind again ih =>
    refine Trace.losesLast_append (turn.loss_calls ?_ (List.forall_mem_nil _)) ih
    rw [h, Turning.ofRead_interrupted hkind, Turning.loss?]
  | failed turn h htimedOut hinterrupted =>
    refine ⟨[_], _, rfl, List.forall_mem_singleton.2 turn.loss_arming, ?_⟩
    rw [Effect.loss?, h, Turning.ofRead_failure htimedOut hinterrupted, Turning.loss?]

end Collecting

end Device

/-! ## Connections -/

namespace Connection

section Reading

variable {c : Connection}

/-- Collecting a reply comes to what comes of the turns with the device. -/
theorem collected_decided (c : Connection) :
    Device.Decided c.config.maxReply c.deadline c.device [] c.collected.result := by
  have hdecided := (Device.collect_collecting c.deadline (.blank c.config.maxReply) c.device).decided
  rwa [Buffer.room_blank, Buffer.content_blank] at hdecided

/-- Where the reading of a reply fails, its last call is the first one to lose the reply. -/
theorem readReply_loses_last {e : ProbeError} (h : c.readReply.result = .error e) :
    ∃ before last error, c.readReply.trace = before ++ [last] ∧
      (∀ effect ∈ before, effect.loss? = none) ∧ last.loss? = some error ∧ e = .io error := by
  have hlast := (Device.collect_collecting c.deadline (.blank c.config.maxReply) c.device).losesLast
  cases hres : c.collected.result with
  | ok bytes =>
    rw [readReply_of_collected hres] at h
    cases h
  | error error =>
    rw [readReply_of_lost hres] at h ⊢
    rw [← collected, hres] at hlast
    obtain ⟨before, last, htrace, hnone, hloss⟩ := hlast
    exact ⟨before, last, error, htrace, hnone, hloss, (Except.error.inj h).symm⟩

end Reading

/-- A refusal to set the timeout is no end of a reply, not even if it says that something timed out,
and the bytes before it are not counted. -/
example :
    let c := ofDevice ⟨"", 115200, 1, 8⟩
      ⟨0, [⟨0, .ok [1, 2]⟩, ⟨0, .error (.ofKind .interrupted)⟩], [],
        [⟨0, .ok ()⟩, ⟨0, .ok ()⟩, ⟨0, .error ⟨.io .timedOut, "timed out"⟩⟩]⟩
    c.readReply.result = .error (.io .timedOut) ∧ c.readReply.state.received = 0 := by
  decide +kernel

end Connection

end VersionProbe
