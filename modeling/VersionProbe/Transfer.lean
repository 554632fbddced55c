/-
# Transfers

The two loops over a device: writing a whole frame, in as many pieces as the device takes it in,
and collecting a reply, in as many pieces as it arrives in, until there are enough bytes or the
deadline has passed.

The ways in which a loop can go are stated once, as the rules of a relation between where it starts
and what it comes to; everything that holds of all runs of a loop follows by induction over them.

* `writeAll_writing`, `collect_collecting` : the loops go by these rules.
* `Writing.effects`, `Collecting.effects` : what a loop does.
* `Writing.reads_state`, `Collecting.writes_state` : what a loop leaves alone.
-/
import VersionProbe.Buffer
import VersionProbe.Device
import VersionProbe.Outcome

namespace VersionProbe.Device

/-! ## Writing -/

/-- Write a whole frame.  A write that takes only a part is followed by one that offers the rest,
and an interrupted one is repeated; a write that takes nothing, or fails otherwise, ends it. -/
def writeAll (frame : List UInt8) (d : Device) : Outcome Device IoError Unit :=
  match frame with
  | [] => ⟨.ok (), d, []⟩
  | first :: rest =>
    let answered := d.write (first :: rest)
    match _h : answered.call.answer with
    | .ok 0 => ⟨.error IoError.nothingTaken, answered.device, [.write answered.call]⟩
    | .ok (n + 1) => (writeAll (rest.drop n) answered.device).after [.write answered.call]
    | .error e =>
      if e.kind = .interrupted then
        (writeAll (first :: rest) answered.device).after [.write answered.call]
      else
        ⟨.error e, answered.device, [.write answered.call]⟩
termination_by frame.length + d.writes.length
decreasing_by
  -- A part that is taken leaves less to write.
  · have hle := writes_length_le (first :: rest) d
    simp only [List.length_drop, List.length_cons]
    omega
  -- An interruption uses up an answer.
  · have hlt := writes_length_lt_of_error (by assumption)
    simp only [List.length_cons]
    omega

/-- `Writing frame d o` says that writing a frame to a device can come to `o`. -/
inductive Writing : List UInt8 → Device → Outcome Device IoError Unit → Prop
  /-- Nothing has to be done for an empty frame. -/
  | done (d : Device) : Writing [] d ⟨.ok (), d, []⟩
  /-- A write that takes nothing ends it. -/
  | stuck {frame : List UInt8} {d : Device} (hne : frame ≠ [])
      (h : (d.write frame).call.answer = .ok 0) :
      Writing frame d
        ⟨.error IoError.nothingTaken, (d.write frame).device, [.write (d.write frame).call]⟩
  /-- A write that takes a part is followed by one that offers the rest. -/
  | taken {frame : List UInt8} {d : Device} {n : Nat} {o : Outcome Device IoError Unit}
      (hne : frame ≠ []) (h : (d.write frame).call.answer = .ok (n + 1))
      (rest : Writing (frame.drop (n + 1)) (d.write frame).device o) :
      Writing frame d (o.after [.write (d.write frame).call])
  /-- An interrupted write is repeated. -/
  | interrupted {frame : List UInt8} {d : Device} {e : IoError} {o : Outcome Device IoError Unit}
      (hne : frame ≠ []) (h : (d.write frame).call.answer = .error e)
      (hkind : e.kind = .interrupted) (again : Writing frame (d.write frame).device o) :
      Writing frame d (o.after [.write (d.write frame).call])
  /-- Any other failure of a write ends it. -/
  | failed {frame : List UInt8} {d : Device} {e : IoError} (hne : frame ≠ [])
      (h : (d.write frame).call.answer = .error e) (hkind : e.kind ≠ .interrupted) :
      Writing frame d ⟨.error e, (d.write frame).device, [.write (d.write frame).call]⟩

/-- Writing a frame goes by the rules. -/
theorem writeAll_writing (frame : List UInt8) (d : Device) :
    Writing frame d (d.writeAll frame) := by
  fun_induction writeAll frame d with
  | case1 d => exact .done d
  | case2 d first rest answered h => exact .stuck (List.cons_ne_nil _ _) h
  | case3 d first rest answered n h ih => exact .taken (List.cons_ne_nil _ _) h ih
  | case4 d first rest answered e h hkind ih =>
    exact .interrupted (List.cons_ne_nil _ _) h hkind ih
  | case5 d first rest answered e h hkind => exact .failed (List.cons_ne_nil _ _) h hkind

/-- The answer to the first write decides what the writing of a frame comes to. -/
theorem writeAll_of_ne_nil {frame : List UInt8} (hne : frame ≠ []) (d : Device) :
    d.writeAll frame =
      match (d.write frame).call.answer with
      | .ok 0 =>
        ⟨.error IoError.nothingTaken, (d.write frame).device, [.write (d.write frame).call]⟩
      | .ok (n + 1) =>
        (writeAll (frame.drop (n + 1)) (d.write frame).device).after [.write (d.write frame).call]
      | .error e =>
        if e.kind = .interrupted then
          (writeAll frame (d.write frame).device).after [.write (d.write frame).call]
        else
          ⟨.error e, (d.write frame).device, [.write (d.write frame).call]⟩ := by
  obtain ⟨first, rest, rfl⟩ := List.exists_cons_of_ne_nil hne
  rw [writeAll]
  split
  · next h => rw [h]
  · next h => rw [h]; rfl
  · next h => rw [h]

/-! ## Collecting -/

/-- Collect a reply in a buffer until it is full or the clock reads `deadline`.  Before each read
the device is told how much time is left.  The end of the stream, a read that times out, and the
deadline end the reply; an interrupted read is repeated; any other failure, and any failure to set
the timeout, loses it. -/
def collect (deadline : Nat) (b : Buffer) (d : Device) : Outcome Device IoError (List UInt8) :=
  if b.filled < b.size then
    if deadline ≤ d.clock then
      ⟨.ok b.content, d, [.log (.deadlineReached b.filled b.size)]⟩
    else
      let armed := d.setTimeout (deadline - d.clock)
      match armed.call.answer with
      | .error e => ⟨.error e.toIoError, armed.device, [.setTimeout armed.call]⟩
      | .ok () =>
        let answered := armed.device.read b.room
        let calls : Trace := [.setTimeout armed.call, .read answered.call]
        match h : answered.call.answer with
        | .ok [] => ⟨.ok b.content, answered.device, calls ++ [.log (.endOfStream b.filled)]⟩
        | .ok (first :: rest) =>
          (collect deadline (b.store (first :: rest) (length_le_of_read h)) answered.device).after
            (calls ++ [.log (.received (first :: rest))])
        | .error e =>
          if e.kind = .timedOut then
            ⟨.ok b.content, answered.device, calls ++ [.log (.readTimedOut b.filled b.size)]⟩
          else if e.kind = .interrupted then
            (collect deadline b answered.device).after calls
          else
            ⟨.error e, answered.device, calls⟩
  else
    ⟨.ok b.content, d, []⟩
termination_by b.room + d.reads.length
decreasing_by
  -- A chunk uses up an answer unless it fills all the room there is.
  · have hp := @read_progress _ (d.setTimeout (deadline - d.clock)).device _ h
    have hfits := @length_le_of_read _ (d.setTimeout (deadline - d.clock)).device _ h
    rw [setTimeout_reads] at hp
    rw [Buffer.room_store]
    simp only [List.length_cons] at hp hfits ⊢
    omega
  · have hlt := @reads_length_lt_of_error _ (d.setTimeout (deadline - d.clock)).device _ h
      (by assumption)
    rw [setTimeout_reads] at hlt
    omega

/-- One turn of the loop up to the answer to its read: there is room and time, the device accepts
the timeout and becomes `armed`, and it is read from and becomes `answered`. -/
structure Turn (deadline : Nat) (b : Buffer) (d : Device)
    (armed : Answered Nat (Except SerialError Unit))
    (answered : Answered Nat (Except IoError (List UInt8))) : Prop where
  room : b.filled < b.size
  time : d.clock < deadline
  arming : d.setTimeout (deadline - d.clock) = armed
  accepted : armed.call.answer = .ok ()
  reading : armed.device.read b.room = answered

/-- There is room at every turn of the loop. -/
theorem Turn.room_pos {deadline : Nat} {b : Buffer} {d : Device}
    {armed : Answered Nat (Except SerialError Unit)}
    {answered : Answered Nat (Except IoError (List UInt8))}
    (turn : Turn deadline b d armed answered) : 0 < b.room :=
  Nat.sub_pos_of_lt turn.room

/-- The clock moves by the time that the two calls of a turn take. -/
theorem Turn.clock_eq {deadline : Nat} {b : Buffer} {d : Device}
    {armed : Answered Nat (Except SerialError Unit)}
    {answered : Answered Nat (Except IoError (List UInt8))}
    (turn : Turn deadline b d armed answered) :
    answered.device.clock = d.clock + armed.call.took + answered.call.took := by
  rw [← turn.reading, read_clock, turn.reading, ← turn.arming, setTimeout_clock]

/-- `Collecting deadline b d o` says that collecting a reply from a device, with the buffer as it
is, can come to `o`. -/
inductive Collecting (deadline : Nat) :
    Buffer → Device → Outcome Device IoError (List UInt8) → Prop
  /-- With enough bytes there is nothing left to do. -/
  | full {b : Buffer} {d : Device} (h : b.size ≤ b.filled) :
      Collecting deadline b d ⟨.ok b.content, d, []⟩
  /-- At the deadline the reply ends. -/
  | late {b : Buffer} {d : Device} (hroom : b.filled < b.size) (h : deadline ≤ d.clock) :
      Collecting deadline b d ⟨.ok b.content, d, [.log (.deadlineReached b.filled b.size)]⟩
  /-- A failure to set the timeout loses the reply. -/
  | refused {b : Buffer} {d : Device} {armed : Answered Nat (Except SerialError Unit)}
      {e : SerialError} (hroom : b.filled < b.size) (htime : d.clock < deadline)
      (harmed : d.setTimeout (deadline - d.clock) = armed) (h : armed.call.answer = .error e) :
      Collecting deadline b d ⟨.error e.toIoError, armed.device, [.setTimeout armed.call]⟩
  /-- A read that brings nothing ends the reply. -/
  | ended {b : Buffer} {d : Device} {armed : Answered Nat (Except SerialError Unit)}
      {answered : Answered Nat (Except IoError (List UInt8))}
      (turn : Turn deadline b d armed answered) (h : answered.call.answer = .ok []) :
      Collecting deadline b d
        ⟨.ok b.content, answered.device,
          [.setTimeout armed.call, .read answered.call, .log (.endOfStream b.filled)]⟩
  /-- A read that brings bytes is followed by another turn, with these bytes stored. -/
  | data {b : Buffer} {d : Device} {armed : Answered Nat (Except SerialError Unit)}
      {answered : Answered Nat (Except IoError (List UInt8))} {bytes : List UInt8}
      {o : Outcome Device IoError (List UInt8)} (turn : Turn deadline b d armed answered)
      (h : answered.call.answer = .ok bytes) (hne : bytes ≠ []) (fits : bytes.length ≤ b.room)
      (rest : Collecting deadline (b.store bytes fits) answered.device o) :
      Collecting deadline b d
        (o.after [.setTimeout armed.call, .read answered.call, .log (.received bytes)])
  /-- A read that times out ends the reply. -/
  | timedOut {b : Buffer} {d : Device} {armed : Answered Nat (Except SerialError Unit)}
      {answered : Answered Nat (Except IoError (List UInt8))} {e : IoError}
      (turn : Turn deadline b d armed answered) (h : answered.call.answer = .error e)
      (hkind : e.kind = .timedOut) :
      Collecting deadline b d
        ⟨.ok b.content, answered.device,
          [.setTimeout armed.call, .read answered.call, .log (.readTimedOut b.filled b.size)]⟩
  /-- An interrupted read is followed by another turn. -/
  | interrupted {b : Buffer} {d : Device} {armed : Answered Nat (Except SerialError Unit)}
      {answered : Answered Nat (Except IoError (List UInt8))} {e : IoError}
      {o : Outcome Device IoError (List UInt8)} (turn : Turn deadline b d armed answered)
      (h : answered.call.answer = .error e) (hkind : e.kind = .interrupted)
      (again : Collecting deadline b answered.device o) :
      Collecting deadline b d (o.after [.setTimeout armed.call, .read answered.call])
  /-- Any other failure of a read loses the reply. -/
  | failed {b : Buffer} {d : Device} {armed : Answered Nat (Except SerialError Unit)}
      {answered : Answered Nat (Except IoError (List UInt8))} {e : IoError}
      (turn : Turn deadline b d armed answered) (h : answered.call.answer = .error e)
      (htimedOut : e.kind ≠ .timedOut) (hinterrupted : e.kind ≠ .interrupted) :
      Collecting deadline b d
        ⟨.error e, answered.device, [.setTimeout armed.call, .read answered.call]⟩

/-- Collecting a reply goes by the rules. -/
theorem collect_collecting (deadline : Nat) (b : Buffer) (d : Device) :
    Collecting deadline b d (d.collect deadline b) := by
  fun_induction collect deadline b d with
  | case1 b d hroom hlate => exact .late hroom hlate
  | case2 b d hroom htime armed e h =>
    exact .refused hroom (Nat.not_le.1 htime) rfl h
  | case3 b d hroom htime armed hset answered calls h =>
    exact .ended ⟨hroom, Nat.not_le.1 htime, rfl, hset, rfl⟩ h
  | case4 b d hroom htime armed hset answered calls first rest h ih =>
    exact .data ⟨hroom, Nat.not_le.1 htime, rfl, hset, rfl⟩ h (List.cons_ne_nil _ _) _ ih
  | case5 b d hroom htime armed hset answered calls e h hkind =>
    exact .timedOut ⟨hroom, Nat.not_le.1 htime, rfl, hset, rfl⟩ h hkind
  | case6 b d hroom htime armed hset answered calls e h hnot hkind ih =>
    exact .interrupted ⟨hroom, Nat.not_le.1 htime, rfl, hset, rfl⟩ h hkind ih
  | case7 b d hroom htime armed hset answered calls e h htimedOut hinterrupted =>
    exact .failed ⟨hroom, Nat.not_le.1 htime, rfl, hset, rfl⟩ h htimedOut hinterrupted
  | case8 b d hroom => exact .full (Nat.not_lt.1 hroom)

/-- With enough bytes, or once the deadline has passed, the reply is what is in the buffer; the
device is not called. -/
theorem collect_at_once {deadline : Nat} {b : Buffer} {d : Device}
    (h : b.size ≤ b.filled ∨ deadline ≤ d.clock) :
    (d.collect deadline b).result = .ok b.content ∧ (d.collect deadline b).state = d ∧
      Trace.touchesWorld (d.collect deadline b).trace = false := by
  by_cases hroom : b.filled < b.size
  · have hlate : deadline ≤ d.clock := h.resolve_left (Nat.not_le.2 hroom)
    rw [collect, if_pos hroom, if_pos hlate]
    exact ⟨rfl, rfl, rfl⟩
  · rw [collect, if_neg hroom]
    exact ⟨rfl, rfl, rfl⟩

/-! ## What is done -/

/-- Writing a frame makes write calls and does nothing else. -/
theorem Writing.effects {frame : List UInt8} {d : Device} {o : Outcome Device IoError Unit}
    (h : Writing frame d o) : ∀ effect ∈ o.trace, ∃ call, effect = .write call := by
  induction h with
  | done d => exact List.forall_mem_nil _
  | stuck hne h => exact List.forall_mem_singleton.2 ⟨_, rfl⟩
  | taken hne h rest ih => exact List.forall_mem_cons.2 ⟨⟨_, rfl⟩, ih⟩
  | interrupted hne h hkind again ih => exact List.forall_mem_cons.2 ⟨⟨_, rfl⟩, ih⟩
  | failed hne h hkind => exact List.forall_mem_singleton.2 ⟨_, rfl⟩

/-- The calls of a turn are among what is done to collect a reply. -/
theorem isReading_turn {armed : Answered Nat (Except SerialError Unit)}
    {answered : Answered Nat (Except IoError (List UInt8))} {t : Trace}
    (h : ∀ effect ∈ t, effect.isReading = true) :
    ∀ effect ∈ Effect.setTimeout armed.call :: .read answered.call :: t,
      effect.isReading = true :=
  List.forall_mem_cons.2 ⟨rfl, List.forall_mem_cons.2 ⟨rfl, h⟩⟩

/-- Collecting a reply sets timeouts, reads, and writes to the log. -/
theorem Collecting.effects {deadline : Nat} {b : Buffer} {d : Device}
    {o : Outcome Device IoError (List UInt8)} (h : Collecting deadline b d o) :
    ∀ effect ∈ o.trace, effect.isReading = true := by
  induction h with
  | full h => exact List.forall_mem_nil _
  | late hroom h => exact List.forall_mem_singleton.2 rfl
  | refused hroom htime harmed h => exact List.forall_mem_singleton.2 rfl
  | ended turn h => exact isReading_turn (List.forall_mem_singleton.2 rfl)
  | data turn h hne fits rest ih => exact isReading_turn (List.forall_mem_cons.2 ⟨rfl, ih⟩)
  | timedOut turn h hkind => exact isReading_turn (List.forall_mem_singleton.2 rfl)
  | interrupted turn h hkind again ih => exact isReading_turn ih
  | failed turn h htimedOut hinterrupted => exact isReading_turn (List.forall_mem_nil _)

/-! ## What stays as it was -/

section Frame

variable {frame : List UInt8} {d : Device} {o : Outcome Device IoError Unit}

/-- Writing a frame does not touch the answers to reads. -/
theorem Writing.reads_state (h : Writing frame d o) : o.state.reads = d.reads := by
  induction h with
  | done d => rfl
  | stuck hne h => exact write_reads _ _
  | taken hne h rest ih => rw [Outcome.after_state, ih, write_reads]
  | interrupted hne h hkind again ih => rw [Outcome.after_state, ih, write_reads]
  | failed hne h hkind => exact write_reads _ _

/-- Writing a frame does not touch the answers to calls that set the timeout. -/
theorem Writing.timeouts_state (h : Writing frame d o) : o.state.timeouts = d.timeouts := by
  induction h with
  | done d => rfl
  | stuck hne h => exact write_timeouts _ _
  | taken hne h rest ih => rw [Outcome.after_state, ih, write_timeouts]
  | interrupted hne h hkind again ih => rw [Outcome.after_state, ih, write_timeouts]
  | failed hne h hkind => exact write_timeouts _ _

/-- A turn of the loop does not touch the answers to writes. -/
theorem Turn.writes_device {deadline : Nat} {b : Buffer}
    {armed : Answered Nat (Except SerialError Unit)}
    {answered : Answered Nat (Except IoError (List UInt8))}
    (turn : Turn deadline b d armed answered) : answered.device.writes = d.writes := by
  rw [← turn.reading, read_writes, ← turn.arming, setTimeout_writes]

/-- Collecting a reply does not touch the answers to writes. -/
theorem Collecting.writes_state {deadline : Nat} {b : Buffer}
    {o : Outcome Device IoError (List UInt8)} (h : Collecting deadline b d o) :
    o.state.writes = d.writes := by
  induction h with
  | full h => rfl
  | late hroom h => rfl
  | refused hroom htime harmed h => rw [← harmed, setTimeout_writes]
  | ended turn h => exact turn.writes_device
  | data turn h hne fits rest ih => rw [Outcome.after_state, ih, turn.writes_device]
  | timedOut turn h hkind => exact turn.writes_device
  | interrupted turn h hkind again ih => rw [Outcome.after_state, ih, turn.writes_device]
  | failed turn h htimedOut hinterrupted => exact turn.writes_device

end Frame

end VersionProbe.Device
