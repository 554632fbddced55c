/-
# The places of a reply in its buffer

The bytes of a reply are written into a buffer of a fixed size, each chunk at the mark, and the mark
is moved behind them.  A read is offered what comes after the mark.  There is always something to
offer, so that a read without bytes comes from the device and not from a buffer that is full, and
there is always space for what is brought.

The collecting of a reply writes to a buffer whose mark is not beyond its end.  It is also shown to
be the same as a collecting in plain bytes that takes slices by their places, none of which is ever
outside the buffer.

* `ReadInTurn.inPlace` : a read is offered the space that the earlier ones have left.
* `Collecting.byPlace` : no slice is taken from outside the buffer.
* `readReply_in_place` : what follows for the reading of a reply.
-/
import VersionProbe.Proofs.Grammar
import VersionProbe.Proofs.Turns

namespace VersionProbe

/-! ## Writing to a slice -/

/-- Write a chunk over the beginning of a slice, which stays as long as it was. -/
def overwrite (chunk slice : List UInt8) : List UInt8 :=
  (chunk ++ slice.drop chunk.length).take slice.length

/-- A chunk that fits in a slice is followed by what it leaves of the slice. -/
theorem overwrite_of_fits {chunk slice : List UInt8} (fits : chunk.length ≤ slice.length) :
    overwrite chunk slice = chunk ++ slice.drop chunk.length := by
  apply List.take_of_length_le
  rw [List.length_append, List.length_drop]
  omega

namespace Buffer

/-! ## Slices of a buffer -/

section Slices

variable (b : Buffer)

/-- The slice from the mark to the end is there. -/
theorem slice_offered :
    slice? b.filled b.bytes.length b.bytes = some (b.bytes.drop b.filled) := by
  rw [slice?_of_le b.filled_le (Nat.le_refl _), List.take_length]

/-- The slice from the mark to the end is as long as there is room. -/
theorem length_offered : (b.bytes.drop b.filled).length = b.room :=
  List.length_drop

variable (chunk : List UInt8) (fits : chunk.length ≤ b.room)

/-- A stored chunk is written over the slice from the mark to the end. -/
theorem bytes_store :
    (b.store chunk fits).bytes = b.content ++ overwrite chunk (b.bytes.drop b.filled) := by
  rw [← b.length_offered] at fits
  rw [overwrite_of_fits fits, List.drop_drop]
  rfl

/-- The slice between the mark and where it is moved to is there, and is the chunk that has been
stored. -/
theorem slice_stored :
    slice? b.filled (b.filled + chunk.length) (b.store chunk fits).bytes = some chunk := by
  have hcontent : (b.store chunk fits).bytes.take (b.filled + chunk.length) = b.content ++ chunk :=
    b.content_store chunk fits
  rw [slice?_of_le (Nat.le_add_right _ _) (b.store chunk fits).filled_le, hcontent,
    List.drop_left' b.length_content]

end Slices

end Buffer

namespace Device

/-! ## Collecting by places -/

/-- Collect a reply in some bytes, with a mark among them, until the mark is at `limit` or the clock
reads `deadline`.  There is no result at all if a slice is taken from outside the bytes: neither the
slice from the mark to the end, which is offered to the device and which it writes to from the
front, nor the slice between the mark and where it is moved to, which is logged.  So there is none
either if the mark would be moved beyond the end. -/
def collectByPlace (deadline limit : Nat) (bytes : List UInt8) (filled : Nat) (d : Device) :
    Option (Outcome Device IoError (List UInt8)) :=
  if filled < limit then
    if deadline ≤ d.clock then
      some ⟨.ok (bytes.take filled), d, [.log (.deadlineReached filled limit)]⟩
    else
      let armed := d.setTimeout (deadline - d.clock)
      match armed.call.answer with
      | .error e => some ⟨.error e.toIoError, armed.device, [.setTimeout armed.call]⟩
      | .ok () => do
        let offered ← slice? filled bytes.length bytes
        let answered := armed.device.read offered.length
        let calls : Trace := [.setTimeout armed.call, .read answered.call]
        match h : answered.call.answer with
        | .ok [] =>
          some ⟨.ok (bytes.take filled), answered.device, calls ++ [.log (.endOfStream filled)]⟩
        | .ok (first :: rest) => do
          let chunk := first :: rest
          let stored := bytes.take filled ++ overwrite chunk offered
          let shown ← slice? filled (filled + chunk.length) stored
          let o ← collectByPlace deadline limit stored (filled + chunk.length) answered.device
          some (o.after (calls ++ [.log (.received shown)]))
        | .error e =>
          if e.kind = .timedOut then
            some ⟨.ok (bytes.take filled), answered.device,
              calls ++ [.log (.readTimedOut filled limit)]⟩
          else if e.kind = .interrupted then do
            let o ← collectByPlace deadline limit bytes filled answered.device
            some (o.after calls)
          else
            some ⟨.error e, answered.device, calls⟩
  else
    some ⟨.ok (bytes.take filled), d, []⟩
termination_by limit - filled + d.reads.length
decreasing_by
  · have hp := @read_progress _ (d.setTimeout (deadline - d.clock)).device _ h
    rw [setTimeout_reads] at hp
    simp only [List.length_cons] at hp ⊢
    omega
  · have hlt := @reads_length_lt_of_error _ (d.setTimeout (deadline - d.clock)).device _ h
      (by assumption)
    rw [setTimeout_reads] at hlt
    omega

section ByPlace

variable {deadline : Nat} {b : Buffer} {d : Device} {o : Outcome Device IoError (List UInt8)}
  {armed : Answered Nat (Except SerialError Unit)}
  {answered : Answered Nat (Except IoError (List UInt8))}

/-- Collecting by places at a turn of the loop: the read is offered all the room there is, and its
answer decides. -/
theorem Turn.byPlace (turn : Turn deadline b d armed answered) :
    collectByPlace deadline b.size b.bytes b.filled d =
      match answered.call.answer with
      | .ok [] =>
        some ⟨.ok b.content, answered.device,
          [.setTimeout armed.call, .read answered.call, .log (.endOfStream b.filled)]⟩
      | .ok (first :: rest) => do
        let chunk := first :: rest
        let stored := b.content ++ overwrite chunk (b.bytes.drop b.filled)
        let shown ← slice? b.filled (b.filled + chunk.length) stored
        let o ← collectByPlace deadline b.size stored (b.filled + chunk.length) answered.device
        some (o.after [.setTimeout armed.call, .read answered.call, .log (.received shown)])
      | .error e =>
        if e.kind = .timedOut then
          some ⟨.ok b.content, answered.device,
            [.setTimeout armed.call, .read answered.call, .log (.readTimedOut b.filled b.size)]⟩
        else if e.kind = .interrupted then do
          let o ← collectByPlace deadline b.size b.bytes b.filled answered.device
          some (o.after [.setTimeout armed.call, .read answered.call])
        else
          some ⟨.error e, answered.device, [.setTimeout armed.call, .read answered.call]⟩ := by
  obtain ⟨hroom, htime, rfl, haccepted, rfl⟩ := turn
  rw [collectByPlace, if_pos hroom, if_neg (Nat.not_le.2 htime)]
  simp only [haccepted, b.slice_offered, Option.bind_eq_bind, Option.bind_some]
  split
  · next h =>
    rw [b.length_offered] at h ⊢
    rw [h]
    rfl
  · next first rest h =>
    rw [b.length_offered] at h ⊢
    rw [h]
    rfl
  · next e h =>
    rw [b.length_offered] at h ⊢
    rw [h]
    rfl

/-- Collecting a reply by places takes no slice from outside the buffer, and comes to what the
collecting of the reply does. -/
theorem Collecting.byPlace (h : Collecting deadline b d o) :
    collectByPlace deadline b.size b.bytes b.filled d = some o := by
  induction h with
  | full h =>
    rw [collectByPlace, if_neg (Nat.not_lt.2 h)]
    rfl
  | late hroom h =>
    rw [collectByPlace, if_pos hroom, if_pos h]
    rfl
  | refused hroom htime harmed h =>
    subst harmed
    rw [collectByPlace, if_pos hroom, if_neg (Nat.not_le.2 htime)]
    simp only [h]
  | ended turn h => rw [turn.byPlace, h]
  | @data b d armed answered bytes o turn h hne fits rest ih =>
    obtain ⟨first, others, rfl⟩ := List.exists_cons_of_ne_nil hne
    rw [Buffer.size_store, Buffer.filled_store, Buffer.bytes_store] at ih
    have hshown := b.slice_stored (first :: others) fits
    rw [Buffer.bytes_store] at hshown
    rw [turn.byPlace, h]
    simp only [hshown, ih, Option.bind_eq_bind, Option.bind_some]
  | timedOut turn h hkind =>
    rw [turn.byPlace, h]
    exact if_pos hkind
  | @interrupted b d armed answered e o turn h hkind again ih =>
    have hnot : e.kind ≠ .timedOut := by
      rw [hkind]
      decide
    rw [turn.byPlace, h]
    simp only [if_neg hnot, if_pos hkind, ih, Option.bind_eq_bind, Option.bind_some]
  | failed turn h htimedOut hinterrupted =>
    rw [turn.byPlace, h]
    simp only [if_neg htimedOut, if_neg hinterrupted]

end ByPlace

/-! ## What a read is offered -/

/-- `ReadInPlace limit d earlier call` says that a read call that comes after some earlier ones is
offered the space that they have left of `limit` bytes, that there is some left and that what the
call brings fits in it, and that the call brings nothing without failing exactly if this is what the
device has for it. -/
structure ReadInPlace (limit : Nat) (d : Device)
    (earlier : List (Call Nat (Except IoError (List UInt8))))
    (call : Call Nat (Except IoError (List UInt8))) : Prop where
  asked : call.asked = limit - (earlier.flatMap Trace.arrived).length
  asked_pos : 1 ≤ call.asked
  before : (earlier.flatMap Trace.arrived).length < limit
  after : (earlier.flatMap Trace.arrived).length + (Trace.arrived call).length ≤ limit
  ended_iff : call.answer = .ok [] ↔ (d.afterTurns earlier.length).nextRead = .ok []

/-- What there is room for is nothing only if nothing is there. -/
theorem map_take_eq_nil_iff {n : Nat} (h : 0 < n) (answer : Except IoError (List UInt8)) :
    answer.map (List.take n) = .ok [] ↔ answer = .ok [] := by
  cases answer with
  | error e => simp [Except.map]
  | ok bytes => simp [Except.map, Nat.ne_of_gt h]

section Offered

variable {limit deadline : Nat} {d : Device}
  {earlier : List (Call Nat (Except IoError (List UInt8)))}
  {call : Call Nat (Except IoError (List UInt8))}

/-- The read of a turn brings no more than it asks for. -/
theorem ReadInTurn.length_arrived_le (h : ReadInTurn limit deadline d earlier call) :
    (Trace.arrived call).length ≤ call.asked := by
  have hanswer := h.answer
  cases hnext : (d.afterTurns earlier.length).nextRead with
  | error e =>
    rw [hnext] at hanswer
    rw [Trace.arrived_of_error hanswer]
    exact Nat.zero_le _
  | ok bytes =>
    rw [hnext] at hanswer
    rw [Trace.arrived_of_ok hanswer]
    exact List.length_take_le _ _

/-- The read of a turn is offered the space that the earlier ones have left. -/
theorem ReadInTurn.inPlace (h : ReadInTurn limit deadline d earlier call) :
    ReadInPlace limit d earlier call := by
  have hasked := h.asked
  have hpos := h.asked_pos
  have hfits := h.length_arrived_le
  rw [← h.brought] at hasked
  refine ⟨by omega, hpos, by omega, by omega, ?_⟩
  rw [h.answer]
  exact map_take_eq_nil_iff hpos _

end Offered

end Device

/-! ## Connections -/

namespace Connection

/-- Collect a reply by places in a fresh buffer of zeros, until the deadline. -/
def collectedByPlace (c : Connection) : Option (Outcome Device IoError (List UInt8)) :=
  c.device.collectByPlace c.deadline c.config.maxReply (List.replicate c.config.maxReply 0) 0

/-- **A read is offered the space that is left, and there is always some.**  While a reply is read,
each read call is offered the space that the earlier ones have left of the buffer: at least one
byte, so that a call brings nothing only if the device has nothing for it, and enough for what it
brings.  No slice is taken from outside the buffer: a reading that checks each of them by its places
comes to the same. -/
theorem readReply_in_place (c : Connection) :
    (∀ earlier call later, Trace.reads c.readReply.trace = earlier ++ call :: later →
        Device.ReadInPlace c.config.maxReply c.device earlier call) ∧
      c.collectedByPlace = some c.collected := by
  constructor
  · intro earlier call later hsplit
    exact (c.readReply_readsInTurn earlier call later hsplit).inPlace
  · have hplaces :=
      (Device.collect_collecting c.deadline (.blank c.config.maxReply) c.device).byPlace
    rw [Buffer.size_blank] at hplaces
    exact hplaces

/-- A connection with room for four bytes, over a device that delivers them in two chunks with an
interruption between them, and has the end of its stream behind them. -/
def filling : Connection :=
  .ofDevice ⟨"", 115200, 1, 4⟩
    ⟨0, [⟨0, .ok [1]⟩, ⟨0, .error (.ofKind .interrupted)⟩, ⟨0, .ok [2, 3, 4]⟩, ⟨0, .ok []⟩], [], []⟩

/-- A chunk that ends at the limit ends the reply: the device is not asked for no bytes at all, and
the end of its stream stays with it. -/
theorem in_place_filling :
    (∀ call ∈ Trace.reads filling.readReply.trace, 1 ≤ call.asked) ∧
      (Trace.reads filling.readReply.trace).map Call.asked = [4, 3, 3] ∧
        filling.readReply.result = .ok ⟨[1, 2, 3, 4]⟩ ∧
          filling.readReply.state.device.reads.length = 1 := by
  refine ⟨?_, by decide +kernel, by decide +kernel, by decide +kernel⟩
  intro call hcall
  obtain ⟨earlier, later, hsplit⟩ := List.append_of_mem hcall
  exact ((readReply_in_place filling).1 earlier call later hsplit).asked_pos

end Connection

end VersionProbe
