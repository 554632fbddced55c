/-
# A reply gathered from answers in store

Where time does not matter, since everything is delivered before the deadline, what the collecting
of a reply comes to can be read off the answers that the device has in store for its reads: which
bytes there is room for, what ends or loses the reply, and which answers are left.

What there is room for can be gathered in one go or in two.  The second one takes up where the first
one stopped for want of room, even within a chunk, and has nothing left to do if the first one
stopped for any other reason.

* `gather_add` : one go with room for more comes to two goes, or to the first one.
* `Collecting.gathered` : collecting a reply is gathering it from the answers in store.
-/
import VersionProbe.Proofs.Delivery

namespace VersionProbe

/-! ## Gathering -/

namespace ReadStep

/-- Something gathered, with some bytes before it. -/
def following (bytes : List UInt8) (gathered : Except IoError (List UInt8) × List ReadStep) :
    Except IoError (List UInt8) × List ReadStep :=
  (gathered.1.map (bytes ++ ·), gathered.2)

/-- What a reply with room for some more bytes gets out of some steps, and which steps are left.
The reply ends when there is no room, at the end of the stream, and at a read that times out, for
which also the end of all steps counts; an interrupted read is passed over; any other failure loses
the reply. -/
def gather (room : Nat) : List ReadStep → Except IoError (List UInt8) × List ReadStep
  | [] => (.ok [], [])
  | step :: rest =>
    if room = 0 then (.ok [], step :: rest)
    else
      match step.answer with
      | .ok [] => (.ok [], rest)
      | .ok (first :: later) =>
        if room ≤ (first :: later).length then
          (.ok ((first :: later).take room), leftover room (first :: later) ++ rest)
        else
          following (first :: later) (gather (room - (first :: later).length) rest)
      | .error e =>
        if e.kind = .timedOut then (.ok [], rest)
        else if e.kind = .interrupted then gather room rest
        else (.error e, rest)

section Gather

variable {room advance : Nat} {bytes : List UInt8} {e : IoError}

/-- Without any bytes before it, what is gathered stays the same. -/
theorem following_nil (gathered : Except IoError (List UInt8) × List ReadStep) :
    following [] gathered = gathered := by
  obtain ⟨result, rest⟩ := gathered
  cases result <;> rfl

/-- Bytes before some bytes before what is gathered. -/
theorem following_following (bytes later : List UInt8)
    (gathered : Except IoError (List UInt8) × List ReadStep) :
    following bytes (following later gathered) = following (bytes ++ later) gathered := by
  obtain ⟨result, rest⟩ := gathered
  cases result with
  | error e => rfl
  | ok last => simp [following, Except.map]

/-- Without steps there is nothing to gather. -/
theorem gather_nil (room : Nat) : gather room [] = (.ok [], []) := rfl

/-- Without room nothing is gathered. -/
theorem gather_zero (steps : List ReadStep) : gather 0 steps = (.ok [], steps) := by
  cases steps with
  | nil => rfl
  | cons step rest => exact if_pos rfl

/-- The end of the stream ends a reply that has room. -/
theorem gather_end (hroom : 0 < room) (rest : List ReadStep) :
    gather room (⟨advance, .ok []⟩ :: rest) = (.ok [], rest) := by
  rw [gather, if_neg (Nat.ne_of_gt hroom)]

/-- Of a chunk that fills the room, what there is no room for is left. -/
theorem gather_fills (hroom : 0 < room) (hfills : room ≤ bytes.length) (rest : List ReadStep) :
    gather room (⟨advance, .ok bytes⟩ :: rest)
      = (.ok (bytes.take room), leftover room bytes ++ rest) := by
  cases bytes with
  | nil => exact absurd (Nat.lt_of_lt_of_le hroom hfills) (Nat.lt_irrefl _)
  | cons first later =>
    rw [gather, if_neg (Nat.ne_of_gt hroom)]
    exact if_pos hfills

/-- A chunk that there is room for comes before what the other steps yield. -/
theorem gather_fits (hne : bytes ≠ []) (hfits : bytes.length ≤ room) (rest : List ReadStep) :
    gather room (⟨advance, .ok bytes⟩ :: rest)
      = following bytes (gather (room - bytes.length) rest) := by
  have hroom : 0 < room := Nat.lt_of_lt_of_le (List.length_pos_iff.2 hne) hfits
  by_cases hfills : room ≤ bytes.length
  · -- The chunk is as long as there is room, so that nothing is left of it.
    rw [gather_fills hroom hfills, Nat.sub_eq_zero_of_le hfills, gather_zero,
      List.take_of_length_le hfits, leftover, List.drop_eq_nil_of_le hfits]
    simp [following, Except.map]
  · obtain ⟨first, later, rfl⟩ := List.exists_cons_of_ne_nil hne
    rw [gather, if_neg (Nat.ne_of_gt hroom)]
    exact if_neg hfills

/-- An interrupted read is passed over. -/
theorem gather_interrupted (hroom : 0 < room) (hkind : e.kind = .interrupted)
    (rest : List ReadStep) : gather room (⟨advance, .error e⟩ :: rest) = gather room rest := by
  have hnot : e.kind ≠ .timedOut := by
    rw [hkind]
    decide
  rw [gather, if_neg (Nat.ne_of_gt hroom)]
  simp only [if_neg hnot, if_pos hkind]

/-- Any other failure ends or loses a reply that has room. -/
theorem gather_failure (hroom : 0 < room) (hkind : e.kind ≠ .interrupted)
    (rest : List ReadStep) :
    gather room (⟨advance, .error e⟩ :: rest)
      = (if e.kind = .timedOut then .ok [] else .error e, rest) := by
  rw [gather, if_neg (Nat.ne_of_gt hroom)]
  simp only [if_neg hkind]
  split <;> rfl

end Gather

/-! ## What is left of a chunk -/

section Leftover

variable {a b : Nat} {bytes : List UInt8}

/-- Of bytes that there is room for, nothing is left. -/
theorem leftover_of_drop_eq_nil (h : bytes.drop a = []) : leftover a bytes = [] := by
  rw [leftover, h]

/-- Of bytes that there is no room for all, one step is left. -/
theorem leftover_of_drop_ne_nil (h : bytes.drop a ≠ []) :
    leftover a bytes = [⟨0, .ok (bytes.drop a)⟩] := by
  unfold leftover
  split
  · next hnone => exact absurd hnone h
  · rfl

/-- What is left of what was left is left of the whole. -/
theorem leftover_drop (a b : Nat) (bytes : List UInt8) :
    leftover b (bytes.drop a) = leftover (a + b) bytes := by
  rw [leftover, leftover, List.drop_drop]

/-- What is left of a chunk comes first, if there is room for it. -/
theorem gather_leftover_fits (hfits : (bytes.drop a).length ≤ b) (rest : List ReadStep) :
    gather b (leftover a bytes ++ rest)
      = following (bytes.drop a) (gather (b - (bytes.drop a).length) rest) := by
  by_cases hnone : bytes.drop a = []
  · rw [leftover_of_drop_eq_nil hnone, hnone, following_nil]
    rfl
  · rw [leftover_of_drop_ne_nil hnone]
    exact gather_fits hnone hfits rest

/-- What is left of a chunk and fills the room is cut once more. -/
theorem gather_leftover_fills (hfills : b ≤ (bytes.drop a).length) (rest : List ReadStep) :
    gather b (leftover a bytes ++ rest)
      = (.ok ((bytes.drop a).take b), leftover (a + b) bytes ++ rest) := by
  rcases Nat.eq_zero_or_pos b with rfl | hb
  · exact gather_zero _
  · have hsome : bytes.drop a ≠ [] := List.ne_nil_of_length_pos (Nat.lt_of_lt_of_le hb hfills)
    rw [leftover_of_drop_ne_nil hsome, ← leftover_drop]
    exact gather_fills hb hfills rest

end Leftover

/-! ## One go and two goes -/

section Goes

variable {a : Nat} {bytes : List UInt8} {steps rest : List ReadStep}

/-- A chunk that fills the room of the first go is taken up by the second one. -/
theorem gather_add_within {advance : Nat} (ha : 0 < a) (hfills : a ≤ bytes.length) (b : Nat)
    (rest : List ReadStep) :
    gather (a + b) (⟨advance, .ok bytes⟩ :: rest)
      = following (bytes.take a) (gather b (leftover a bytes ++ rest)) := by
  have hlength : (bytes.drop a).length = bytes.length - a := List.length_drop
  rcases Nat.le_total bytes.length (a + b) with hfits | hmore
  · have hne : bytes ≠ [] := List.ne_nil_of_length_pos (Nat.lt_of_lt_of_le ha hfills)
    have hroom : b - (bytes.drop a).length = a + b - bytes.length := by omega
    rw [gather_fits hne hfits, gather_leftover_fits (by omega), following_following,
      List.take_append_drop, hroom]
  · rw [gather_fills (by omega) hmore, gather_leftover_fills (by omega), List.take_add]
    rfl

/-- What comes of something gathered with room for `a` bytes if a second go, with room for `b` more,
takes up where the first one stopped for want of room. -/
def resume (a b : Nat) (gathered : Except IoError (List UInt8) × List ReadStep) :
    Except IoError (List UInt8) × List ReadStep :=
  match gathered.1 with
  | .ok bytes => if bytes.length = a then following bytes (gather b gathered.2) else gathered
  | .error _ => gathered

/-- A first go that has filled its room is followed by the second one. -/
theorem resume_of_full (hfull : bytes.length = a) (b : Nat) (rest : List ReadStep) :
    resume a b (.ok bytes, rest) = following bytes (gather b rest) :=
  if_pos hfull

/-- After a first go without room the second one is all there is. -/
theorem resume_zero (b : Nat) (steps : List ReadStep) :
    resume 0 b (.ok [], steps) = gather b steps :=
  following_nil _

/-- A first go that has not filled its room is all there is. -/
theorem resume_of_short {gathered : Except IoError (List UInt8) × List ReadStep}
    (hshort : ∀ bytes, gathered.1 = .ok bytes → bytes.length ≠ a) (b : Nat) :
    resume a b gathered = gathered := by
  unfold resume
  split
  · next bytes hresult => exact if_neg (hshort bytes hresult)
  · rfl

/-- Bytes before a first go take up room of it. -/
theorem resume_following (hfits : bytes.length ≤ a) (b : Nat)
    (gathered : Except IoError (List UInt8) × List ReadStep) :
    resume a b (following bytes gathered)
      = following bytes (resume (a - bytes.length) b gathered) := by
  obtain ⟨result, rest⟩ := gathered
  cases result with
  | error e => rfl
  | ok later =>
    have hlength : (bytes ++ later).length = bytes.length + later.length := List.length_append
    by_cases hfull : later.length = a - bytes.length
    · rw [resume_of_full hfull, following_following]
      have hwhole : (bytes ++ later).length = a := by omega
      exact resume_of_full hwhole b rest
    · have hshort : (bytes ++ later).length ≠ a := by omega
      have hlater : resume (a - bytes.length) b (.ok later, rest) = (.ok later, rest) :=
        if_neg hfull
      rw [hlater]
      exact if_neg hshort

/-- Gathering with room for more is gathering in two goes. -/
theorem gather_add (a b : Nat) (steps : List ReadStep) :
    gather (a + b) steps = resume a b (gather a steps) := by
  induction steps generalizing a with
  | nil =>
    rw [gather_nil, gather_nil]
    rcases Nat.eq_zero_or_pos a with rfl | ha
    · rw [resume_zero, gather_nil]
    · exact (if_neg (Nat.ne_of_lt ha)).symm
  | cons step steps ih =>
    rcases Nat.eq_zero_or_pos a with rfl | ha
    · rw [gather_zero, resume_zero, Nat.zero_add]
    · obtain ⟨advance, answer⟩ := step
      have hmore : 0 < a + b := Nat.add_pos_left ha b
      have hnothing : (0 : Nat) ≠ a := Nat.ne_of_lt ha
      match answer with
      | .ok [] =>
        rw [gather_end ha, gather_end hmore]
        exact (if_neg hnothing).symm
      | .ok (first :: later) =>
        rcases Nat.le_total (first :: later).length a with hfits | hfills
        · have hroom : a + b - (first :: later).length = a - (first :: later).length + b := by
            omega
          rw [gather_fits (List.cons_ne_nil _ _) hfits,
            gather_fits (List.cons_ne_nil _ _) (Nat.le_add_right_of_le hfits), hroom, ih,
            resume_following hfits]
        · rw [gather_fills ha hfills, gather_add_within ha hfills,
            resume_of_full (List.length_take_of_le hfills)]
      | .error e =>
        by_cases hkind : e.kind = .interrupted
        · rw [gather_interrupted ha hkind, gather_interrupted hmore hkind, ih]
        · rw [gather_failure ha hkind, gather_failure hmore hkind]
          refine (resume_of_short ?_ b).symm
          intro bytes hresult
          by_cases htimedOut : e.kind = .timedOut
          · simp only [if_pos htimedOut, Except.ok.injEq] at hresult
            rwa [← hresult]
          · simp only [if_neg htimedOut] at hresult
            cases hresult

end Goes

end ReadStep

namespace Device

/-! ## Reads -/

section Read

variable {room : Nat} {d : Device} {e : IoError}

/-- The bytes that a read brings come before what is gathered from the steps that are left. -/
theorem gather_of_read_bytes {bytes : List UInt8} (h : (d.read room).call.answer = .ok bytes)
    (hne : bytes ≠ []) :
    ReadStep.gather room d.reads
      = ReadStep.following bytes
          (ReadStep.gather (room - bytes.length) (d.read room).device.reads) := by
  obtain ⟨clock, reads, writes, timeouts⟩ := d
  match reads with
  | [] => cases h
  | ⟨advance, .error e⟩ :: rest => cases h
  | ⟨advance, .ok offered⟩ :: rest =>
    obtain rfl : offered.take room = bytes := Except.ok.inj h
    show ReadStep.gather room (⟨advance, .ok offered⟩ :: rest)
      = ReadStep.following (offered.take room)
          (ReadStep.gather (room - (offered.take room).length)
            (ReadStep.leftover room offered ++ rest))
    rcases Nat.le_total offered.length room with hfits | hfills
    · rw [List.take_of_length_le hfits] at hne ⊢
      rw [ReadStep.gather_fits hne hfits,
        ReadStep.leftover_of_drop_eq_nil (List.drop_eq_nil_of_le hfits)]
      rfl
    · have hroom : 0 < room := by
        rcases Nat.eq_zero_or_pos room with rfl | hpos
        · exact absurd List.take_zero hne
        · exact hpos
      rw [ReadStep.gather_fills hroom hfills, List.length_take_of_le hfills, Nat.sub_self,
        ReadStep.gather_zero]
      exact Prod.ext (congrArg Except.ok (List.append_nil _).symm) rfl

/-- A read that brings nothing although there is room ends what is gathered. -/
theorem gather_of_read_end (hroom : 0 < room) (h : (d.read room).call.answer = .ok []) :
    ReadStep.gather room d.reads = (.ok [], (d.read room).device.reads) := by
  obtain ⟨clock, reads, writes, timeouts⟩ := d
  match reads with
  | [] => cases h
  | ⟨advance, .error e⟩ :: rest => cases h
  | ⟨advance, .ok offered⟩ :: rest =>
    have htaken : offered.take room = [] := Except.ok.inj h
    rcases List.take_eq_nil_iff.1 htaken with hzero | rfl
    · exact absurd hzero (Nat.ne_of_gt hroom)
    · show ReadStep.gather room (⟨advance, .ok []⟩ :: rest)
        = (.ok [], ReadStep.leftover room [] ++ rest)
      rw [ReadStep.gather_end hroom, ReadStep.leftover_of_drop_eq_nil List.drop_nil]
      rfl

/-- An interrupted read is passed over. -/
theorem gather_of_read_interrupted (hroom : 0 < room) (h : (d.read room).call.answer = .error e)
    (hkind : e.kind = .interrupted) :
    ReadStep.gather room d.reads = ReadStep.gather room (d.read room).device.reads := by
  obtain ⟨clock, reads, writes, timeouts⟩ := d
  match reads with
  | [] =>
    obtain rfl : IoError.timedOut = e := Except.error.inj h
    cases hkind
  | ⟨advance, .error f⟩ :: rest =>
    obtain rfl : f = e := Except.error.inj h
    exact ReadStep.gather_interrupted hroom hkind rest
  | ⟨advance, .ok offered⟩ :: rest => cases h

/-- Any other failure of a read ends or loses what is gathered. -/
theorem gather_of_read_failure (hroom : 0 < room) (h : (d.read room).call.answer = .error e)
    (hkind : e.kind ≠ .interrupted) :
    ReadStep.gather room d.reads
      = (if e.kind = .timedOut then .ok [] else .error e, (d.read room).device.reads) := by
  obtain ⟨clock, reads, writes, timeouts⟩ := d
  match reads with
  | [] =>
    -- A device without answers times out, and without steps the reply ends.
    obtain rfl : IoError.timedOut = e := Except.error.inj h
    rfl
  | ⟨advance, .error f⟩ :: rest =>
    obtain rfl : f = e := Except.error.inj h
    exact ReadStep.gather_failure hroom hkind rest
  | ⟨advance, .ok offered⟩ :: rest => cases h

end Read

/-! ## The loop -/

/-- The device that a turn reads from has the answers to reads that there were before. -/
theorem Turn.reads_armed {deadline : Nat} {b : Buffer} {d : Device}
    {armed : Answered Nat (Except SerialError Unit)}
    {answered : Answered Nat (Except IoError (List UInt8))}
    (turn : Turn deadline b d armed answered) : armed.device.reads = d.reads := by
  rw [← turn.arming, setTimeout_reads]

/-- Collecting a reply from an accepting device that delivers before the deadline is gathering it
from the answers in store: the invariant is that what is in the buffer comes before what is still to
be gathered, which all arrives in time. -/
theorem Collecting.gathered {deadline : Nat} {b : Buffer} {d : Device}
    {o : Outcome Device IoError (List UInt8)} (h : Collecting deadline b d o)
    (haccepting : d.Accepting) (htime : d.deliveredAt < deadline) :
    o.result = (ReadStep.gather b.room d.reads).1.map (b.content ++ ·) ∧
      o.state.reads = (ReadStep.gather b.room d.reads).2 := by
  induction h with
  | @full b d h =>
    have hroom : b.room = 0 := Nat.sub_eq_zero_of_le h
    rw [hroom, ReadStep.gather_zero]
    exact ⟨congrArg Except.ok (List.append_nil _).symm, rfl⟩
  | @late b d hroom h =>
    exact absurd htime (Nat.not_lt.2 (Nat.le_trans h d.clock_le_deliveredAt))
  | @refused b d armed e hroom htime' harmed h =>
    have haccepted := (haccepting.setTimeout (deadline - d.clock)).2.2
    rw [harmed, h] at haccepted
    cases haccepted
  | ended turn h =>
    obtain rfl := turn.reading
    rw [← turn.reads_armed, gather_of_read_end turn.room_pos h]
    exact ⟨congrArg Except.ok (List.append_nil _).symm, rfl⟩
  | @data b d armed answered bytes o turn h hne fits rest ih =>
    obtain ⟨hresult, hreads⟩ :=
      ih (haccepting.turn turn) (by rwa [turn.deliveredAt_of_bytes haccepting h hne])
    obtain rfl := turn.reading
    rw [← turn.reads_armed, gather_of_read_bytes h hne]
    rw [Buffer.room_store] at hresult hreads
    refine ⟨?_, hreads⟩
    -- What was in the buffer, this chunk, and what comes later are joined either way.
    rw [Outcome.after_result, hresult, Buffer.content_store, ReadStep.following]
    cases (ReadStep.gather (b.room - bytes.length) (armed.device.read b.room).device.reads).1 with
    | error e => rfl
    | ok later => exact congrArg Except.ok (List.append_assoc _ _ _)
  | @timedOut b d armed answered e turn h hkind =>
    have hnot : e.kind ≠ .interrupted := by
      rw [hkind]
      decide
    obtain rfl := turn.reading
    rw [← turn.reads_armed, gather_of_read_failure turn.room_pos h hnot, if_pos hkind]
    exact ⟨congrArg Except.ok (List.append_nil _).symm, rfl⟩
  | interrupted turn h hkind again ih =>
    have hrest := ih (haccepting.turn turn)
      (by rwa [turn.deliveredAt_of_interrupted haccepting h hkind])
    obtain rfl := turn.reading
    rw [← turn.reads_armed, gather_of_read_interrupted turn.room_pos h hkind]
    exact hrest
  | failed turn h htimedOut hinterrupted =>
    obtain rfl := turn.reading
    rw [← turn.reads_armed, gather_of_read_failure turn.room_pos h hinterrupted,
      if_neg htimedOut]
    exact ⟨rfl, rfl⟩

end Device

end VersionProbe
