/-
# The reading of a reply, turn by turn

Each read call of the reading of a reply is the read of one turn.  It asks for the room that the
turns before have left, and is answered as the device has it.  The first turn that is not made, or
does not let the reading go on, is the last one to have a say: what is delivered is what the turns
before it have brought, as far as there was room.

* `Collecting.brings` : what is delivered is what the turns have brought.
* `Collecting.readsInTurn` : each read call is the read of the turn of its number.
-/
import VersionProbe.Proofs.Endings

namespace VersionProbe

namespace Device

/-! ## The turn that stops the reading -/

/-- `StopsAt room deadline d k` says that turn `k` is reached, and that it is not made or does not
let the reading of a reply go on. -/
structure StopsAt (room deadline : Nat) (d : Device) (k : Nat) : Prop where
  reached : Reaches room deadline d k
  stopped : ¬ Passes room deadline d k

section Stopping

variable {room deadline k k' : Nat} {d : Device}

/-- A turn at which the reply is over stops the reading. -/
theorem EndedAt.stopsAt (h : EndedAt room deadline d k) : StopsAt room deadline d k :=
  ⟨h.reached, h.not_passes⟩

/-- Only one turn stops the reading. -/
theorem StopsAt.unique (h : StopsAt room deadline d k) (h' : StopsAt room deadline d k') :
    k = k' :=
  h.reached.unique h.stopped h'.reached h'.stopped

/-- Without room, without time, or where the first turn does not let the reading go on, this turn
stops it. -/
theorem stopsAt_zero (h : room = 0 ∨ deadline ≤ d.clock ∨ d.turning ≠ .onward) :
    StopsAt room deadline d 0 := by
  refine ⟨reaches_zero, ?_⟩
  rintro ⟨hroom, htime, honward⟩
  rcases h with hnone | hlate | hnot
  · rw [hnone] at hroom
    exact Nat.not_lt_zero _ hroom
  · exact Nat.not_le.2 htime hlate
  · exact hnot honward

/-- A turn that stops the reading after a first one stops it. -/
theorem stopsAt_succ (hroom : 0 < room) (htime : d.clock < deadline) (honward : d.turning = .onward)
    (hlater : StopsAt (room - (d.brought 1).length) deadline (d.afterTurns 1) k) :
    StopsAt room deadline d (k + 1) := by
  refine ⟨reaches_succ hroom htime honward hlater.reached, ?_⟩
  rintro ⟨hroom', htime', honward'⟩
  apply hlater.stopped
  rw [afterTurns_succ] at htime' honward'
  rw [brought_succ, List.length_append] at hroom'
  exact ⟨by omega, htime', honward'⟩

end Stopping

/-! ## What is delivered -/

/-- `Brings room deadline d bytes` says that the bytes are what the turns with a device bring up to
the one that stops the reading, as far as there is room. -/
def Brings (room deadline : Nat) (d : Device) (bytes : List UInt8) : Prop :=
  ∃ k, StopsAt room deadline d k ∧ bytes = (d.brought k).take room

/-- Where the first turn stops the reading, nothing is brought. -/
theorem brings_nothing {room deadline : Nat} {d : Device}
    (h : room = 0 ∨ deadline ≤ d.clock ∨ d.turning ≠ .onward) : Brings room deadline d [] :=
  ⟨0, stopsAt_zero h, List.take_nil.symm⟩

/-- Without room nothing is brought. -/
theorem Brings.of_no_room {deadline : Nat} {d : Device} {bytes : List UInt8}
    (h : Brings 0 deadline d bytes) : bytes = [] := by
  obtain ⟨k, -, rfl⟩ := h
  exact List.take_zero

section Collecting

variable {deadline : Nat} {b : Buffer} {d : Device} {o : Outcome Device IoError (List UInt8)}
  {armed : Answered Nat (Except SerialError Unit)}
  {answered : Answered Nat (Except IoError (List UInt8))}

/-- What a turn that lets the reading go on brings comes before what the later turns bring. -/
theorem Turn.brings (turn : Turn deadline b d armed answered) (honward : d.turning = .onward)
    {later : List UInt8}
    (hlater : Brings (b.room - (Trace.arrived answered.call).length) deadline answered.device
      later) :
    Brings b.room deadline d (Trace.arrived answered.call ++ later) := by
  rcases turn.fits_or_fills with ⟨harrived, hfits, hdevice⟩ | ⟨harrived, hfills, hnone⟩
  · rw [harrived, hdevice] at hlater
    obtain ⟨k, hstops, rfl⟩ := hlater
    refine ⟨k + 1, stopsAt_succ turn.room_pos turn.time honward hstops, ?_⟩
    rw [harrived, brought_succ k, List.take_append, List.take_of_length_le hfits]
  · -- There is no room for another turn.
    rw [hnone] at hlater
    rw [hlater.of_no_room, List.append_nil, harrived]
    refine ⟨1, ⟨reaches_succ turn.room_pos turn.time honward reaches_zero, ?_⟩, rfl⟩
    intro hpasses
    exact Nat.not_lt.2 hfills hpasses.1

/-- A turn that brings nothing and does not let the reading go on stops it. -/
theorem Turn.brings_nothing (turn : Turn deadline b d armed answered)
    (hnothing : Trace.arrived answered.call = [])
    (hstop : Turning.ofRead answered.call.answer ≠ .onward) :
    Brings b.room deadline d (Trace.arrived answered.call ++ []) := by
  rw [hnothing]
  apply Device.brings_nothing
  rw [turn.turning_eq]
  exact Or.inr (Or.inr hstop)

/-- What is delivered while a reply is collected is what the turns with the device bring. -/
theorem Collecting.brings (h : Collecting deadline b d o) :
    Brings b.room deadline d (Trace.delivered o.trace) := by
  induction h with
  | full h => exact brings_nothing (Or.inl (Nat.sub_eq_zero_of_le h))
  | late hroom h => exact brings_nothing (Or.inr (Or.inl h))
  | refused hroom htime harmed h =>
    apply brings_nothing
    rw [turning_of_refused harmed h]
    exact Or.inr (Or.inr (by simp))
  | @ended b d armed answered turn h =>
    apply turn.brings_nothing (Trace.arrived_of_ok h)
    rw [h, Turning.ofRead_end]
    simp
  | @data b d armed answered bytes o turn h hne fits rest ih =>
    rw [Buffer.room_store, ← Trace.arrived_of_ok h] at ih
    exact turn.brings (turn.onward_of_bytes h hne) ih
  | @timedOut b d armed answered e turn h hkind =>
    apply turn.brings_nothing (Trace.arrived_of_error h)
    rw [h, Turning.ofRead_timedOut hkind]
    simp
  | @interrupted b d armed answered e o turn h hkind again ih =>
    apply turn.brings (turn.onward_of_interrupted h hkind)
    rw [Trace.arrived_of_error h]
    exact ih
  | @failed b d armed answered e turn h htimedOut hinterrupted =>
    apply turn.brings_nothing (Trace.arrived_of_error h)
    rw [h, Turning.ofRead_failure htimedOut hinterrupted]
    simp

end Collecting

/-! ## The read calls -/

/-- `ReadInTurn room deadline d earlier call` says that a read call that comes after some earlier
ones is the read of the turn with their number: the turn is reached and made, as there is room and
time; the earlier calls have brought what the turns before have; and the call asks for the room that
is left, and is answered as the device has it. -/
structure ReadInTurn (room deadline : Nat) (d : Device)
    (earlier : List (Call Nat (Except IoError (List UInt8))))
    (call : Call Nat (Except IoError (List UInt8))) : Prop where
  reached : Reaches room deadline d earlier.length
  time : (d.afterTurns earlier.length).clock < deadline
  brought : earlier.flatMap Trace.arrived = d.brought earlier.length
  asked : (d.brought earlier.length).length + call.asked = room
  asked_pos : 0 < call.asked
  answer : call.answer = (d.afterTurns earlier.length).nextRead.map (List.take call.asked)
  turning : (d.afterTurns earlier.length).turning = Turning.ofRead call.answer

/-- Each of some read calls is the read of its turn. -/
def ReadsInTurn (room deadline : Nat) (d : Device)
    (calls : List (Call Nat (Except IoError (List UInt8)))) : Prop :=
  ∀ earlier call later, calls = earlier ++ call :: later → ReadInTurn room deadline d earlier call

section Reads

variable {deadline : Nat} {b : Buffer} {d : Device} {o : Outcome Device IoError (List UInt8)}
  {armed : Answered Nat (Except SerialError Unit)}
  {answered : Answered Nat (Except IoError (List UInt8))}
  {earlier calls : List (Call Nat (Except IoError (List UInt8)))}
  {call : Call Nat (Except IoError (List UInt8))}

/-- Without calls there is none that is out of its turn. -/
theorem readsInTurn_nil (room deadline : Nat) (d : Device) : ReadsInTurn room deadline d [] := by
  intro earlier call later hsplit
  cases earlier <;> cases hsplit

/-- A turn is not made without room. -/
theorem ReadsInTurn.of_no_room (h : ReadsInTurn 0 deadline d calls) : calls = [] := by
  cases calls with
  | nil => rfl
  | cons call later =>
    have hfirst := h [] call later rfl
    have hasked := hfirst.asked
    have hpos := hfirst.asked_pos
    omega

/-- The read of a turn is the first one. -/
theorem Turn.readInTurn (turn : Turn deadline b d armed answered) :
    ReadInTurn b.room deadline d [] answered.call where
  reached := reaches_zero
  time := turn.time
  brought := rfl
  asked := by rw [← turn.reading, read_asked]; exact Nat.zero_add _
  asked_pos := by rw [← turn.reading, read_asked]; exact turn.room_pos
  answer := by
    have hnext : armed.device.nextRead = d.nextRead := by
      rw [← turn.arming, nextRead, setTimeout_reads, nextRead]
    rw [← turn.reading, read_asked, read_answer, hnext]
    rfl
  turning := turn.turning_eq

/-- A read that is in its turn after a first turn is in its turn. -/
theorem ReadInTurn.succ (h : ReadInTurn (b.room - (d.brought 1).length) deadline (d.afterTurns 1)
      earlier call)
    (turn : Turn deadline b d armed answered) (honward : d.turning = .onward)
    (harrived : Trace.arrived answered.call = d.brought 1) :
    ReadInTurn b.room deadline d (answered.call :: earlier) call where
  reached := reaches_succ turn.room_pos turn.time honward h.reached
  time := by
    rw [List.length_cons, afterTurns_succ]
    exact h.time
  brought := by
    rw [List.flatMap_cons, h.brought, harrived, List.length_cons, brought_succ earlier.length]
  asked := by
    have hasked := h.asked
    have hpos := h.asked_pos
    rw [List.length_cons, brought_succ, List.length_append]
    omega
  asked_pos := h.asked_pos
  answer := by
    rw [List.length_cons, afterTurns_succ]
    exact h.answer
  turning := by
    rw [List.length_cons, afterTurns_succ]
    exact h.turning

/-- The read of a turn comes before the reads of the later turns. -/
theorem Turn.readsInTurn (turn : Turn deadline b d armed answered)
    (hlater : calls = [] ∨ d.turning = .onward ∧
      ReadsInTurn (b.room - (Trace.arrived answered.call).length) deadline answered.device calls) :
    ReadsInTurn b.room deadline d (answered.call :: calls) := by
  intro earlier call later hsplit
  cases earlier with
  | nil =>
    obtain ⟨rfl, -⟩ := List.cons.inj hsplit
    exact turn.readInTurn
  | cons first earlier =>
    obtain ⟨rfl, hcalls⟩ := List.cons.inj hsplit
    rcases hlater with hnone | ⟨honward, hlater⟩
    · rw [hnone] at hcalls
      exact absurd hcalls (by simp)
    · rcases turn.fits_or_fills with ⟨harrived, hfits, hdevice⟩ | ⟨-, -, hnone⟩
      · rw [harrived, hdevice] at hlater
        exact (hlater earlier call later hcalls).succ turn honward harrived
      · -- There is no room for another turn.
        rw [hnone] at hlater
        rw [hlater.of_no_room] at hcalls
        exact absurd hcalls (by simp)

/-- Each read call that is made to collect a reply is the read of its turn. -/
theorem Collecting.readsInTurn (h : Collecting deadline b d o) :
    ReadsInTurn b.room deadline d (Trace.reads o.trace) := by
  induction h with
  | full h => exact readsInTurn_nil _ _ _
  | late hroom h => exact readsInTurn_nil _ _ _
  | refused hroom htime harmed h => exact readsInTurn_nil _ _ _
  | ended turn h => exact turn.readsInTurn (Or.inl rfl)
  | @data b d armed answered bytes o turn h hne fits rest ih =>
    rw [Buffer.room_store, ← Trace.arrived_of_ok h] at ih
    exact turn.readsInTurn (Or.inr ⟨turn.onward_of_bytes h hne, ih⟩)
  | timedOut turn h hkind => exact turn.readsInTurn (Or.inl rfl)
  | @interrupted b d armed answered e o turn h hkind again ih =>
    refine turn.readsInTurn (Or.inr ⟨turn.onward_of_interrupted h hkind, ?_⟩)
    rw [Trace.arrived_of_error h]
    exact ih
  | failed turn h htimedOut hinterrupted => exact turn.readsInTurn (Or.inl rfl)

end Reads

end Device

/-! ## Connections -/

namespace Connection

variable (c : Connection)

/-- What is delivered while a reply is read is what the turns with the device bring. -/
theorem delivered_readReply :
    Device.Brings c.config.maxReply c.deadline c.device (Trace.delivered c.readReply.trace) := by
  have hbrings := (Device.collect_collecting c.deadline (.blank c.config.maxReply) c.device).brings
  rw [Buffer.room_blank] at hbrings
  rw [trace_readReply]
  exact hbrings

/-- Each read call of the reading of a reply is the read of its turn. -/
theorem readReply_readsInTurn :
    Device.ReadsInTurn c.config.maxReply c.deadline c.device (Trace.reads c.readReply.trace) := by
  have hreads :=
    (Device.collect_collecting c.deadline (.blank c.config.maxReply) c.device).readsInTurn
  rw [Buffer.room_blank] at hreads
  rw [trace_readReply]
  exact hreads

end Connection

end VersionProbe
