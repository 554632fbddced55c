/-
# The version query from end to end

A query over a device that answers at once gets the beginning of the stream that the device
delivers, as long as the settings allow, in whatever chunks the stream arrives.  The version
information in that beginning is the one in the whole stream, or there is none: a reply that is cut
off can be useless, but it is never misread, and what follows a whole event is never looked at.

* `Delivers.harvest` : a reply gets as much of the stream as it has room for.
* `exchange_result_of_inTime` : so does an exchange, if the stream is delivered in time.
* `decode_take_eq_ok_iff` : decoding the beginning of a stream.
-/
import VersionProbe.Proofs.Chunking
import VersionProbe.Proofs.Frames
import VersionProbe.Proofs.Prefixes
import VersionProbe.Proofs.VersionReply

namespace VersionProbe

/-! ## Streams that are delivered -/

/-- `Delivers steps stream` says that the steps deliver a stream of bytes, cut into chunks in any
way and with any interrupted reads before and between these, and then end it: with the end of the
stream, with a read that times out, or by there being no more steps. -/
inductive ReadStep.Delivers : List ReadStep → List UInt8 → Prop
  | exhausted : Delivers [] []
  | ended (advance : Nat) (rest : List ReadStep) : Delivers (⟨advance, .ok []⟩ :: rest) []
  | timedOut (advance : Nat) {e : IoError} (h : e.kind = .timedOut) (rest : List ReadStep) :
      Delivers (⟨advance, .error e⟩ :: rest) []
  | interrupted (advance : Nat) {e : IoError} (h : e.kind = .interrupted) {rest : List ReadStep}
      {stream : List UInt8} (later : Delivers rest stream) :
      Delivers (⟨advance, .error e⟩ :: rest) stream
  | chunk (advance : Nat) {bytes : List UInt8} (hne : bytes ≠ []) {rest : List ReadStep}
      {stream : List UInt8} (later : Delivers rest stream) :
      Delivers (⟨advance, .ok bytes⟩ :: rest) (bytes ++ stream)

/-- What comes to an end without a byte yields an empty reply, with or without room for more. -/
theorem harvest_of_end {item : Item} (rest : List Item)
    (h : ∀ room, 0 < room → harvest room (item :: rest) = (.ok [], rest)) (room : Nat) :
    (harvest room (item :: rest)).1 = .ok [] := by
  rcases Nat.eq_zero_or_pos room with hzero | hpos
  · rw [harvest_of_no_room hzero]
  · rw [h room hpos]

/-- A reply gets as much of the stream as it has room for. -/
theorem ReadStep.Delivers.harvest {steps : List ReadStep} {stream : List UInt8}
    (h : Delivers steps stream) (room : Nat) :
    (VersionProbe.harvest room (allItems steps)).1 = .ok (stream.take room) := by
  induction h generalizing room with
  | exhausted =>
    show (VersionProbe.harvest room []).1 = _
    rw [harvest_nil, List.take_nil]
  | ended advance rest =>
    rw [List.take_nil]
    exact harvest_of_end _ (fun _ hpos => harvest_stop hpos _) room
  | @timedOut advance e hkind rest =>
    have hnot : e.kind ≠ .interrupted := by
      rw [hkind]
      decide
    have hitems : items ⟨advance, .error e⟩ = [.failure e] := if_neg hnot
    rw [allItems_cons, hitems, List.take_nil]
    refine harvest_of_end _ (fun room hpos => ?_) room
    rw [harvest_failure hpos, if_pos hkind]
  | @interrupted advance e hkind rest stream later ih =>
    have hinterrupted : isInterrupted ⟨advance, .error e⟩ := decide_eq_true hkind
    rw [allItems_cons, items_of_isInterrupted hinterrupted]
    exact ih room
  | @chunk advance bytes hne rest stream later ih =>
    rw [allItems_cons, items_of_ne_nil hne, List.take_append]
    rcases Nat.le_total bytes.length room with hfits | hfull
    · rw [harvest_bytes bytes _ hfits, ih, List.take_of_length_le hfits]
      rfl
    · rw [harvest_bytes_of_le _ hfull, Nat.sub_eq_zero_of_le hfull, List.take_zero,
        List.append_nil]

/-! ## The reply to an exchange -/

namespace Connection

/-- Over a device that accepts timeouts at once and whose writes get on, and that delivers a stream
within the time for a reply, an exchange gets as much of the stream as the settings allow. -/
theorem exchange_result_of_inTime {c : Connection} {stream : List UInt8}
    (haccepting : c.device.Accepting)
    (htime : ReadStep.deliveryTime c.device.reads < c.config.timeout)
    (hwrites : ∀ step ∈ c.device.writes, step.GetsOn)
    (hreads : ReadStep.Delivers c.device.reads stream) (frame : List UInt8) :
    (c.exchange frame).result = .ok ⟨stream.take c.config.maxReply⟩ := by
  have hwriting := c.device.writeAll_writing frame
  have hwritten : (c.device.writeAll frame).result = .ok () := hwriting.result_of_getsOn hwrites
  have hsent : (c.send frame).result = .ok () := by rw [send_of_written hwritten]
  -- The writing has left the answers to reads and to timeouts as they were.
  have haccepting' : (c.send frame).state.device.Accepting := by
    rw [device_send]
    exact haccepting.of_eq hwriting.timeouts_state
  have hreads' : (c.send frame).state.device.reads = c.device.reads := by
    rw [device_send, hwriting.reads_state]
  have htime' : ReadStep.deliveryTime (c.send frame).state.device.reads
      < (c.send frame).state.config.timeout := by
    rw [hreads', send_config]
    exact htime
  have hcollected : (c.send frame).state.collected.result
      = .ok (stream.take c.config.maxReply) := by
    rw [(collected_of_inTime haccepting' htime').1, send_config, Device.items, hreads']
    exact hreads.harvest c.config.maxReply
  rw [exchange_of_send_ok hsent, Outcome.after_result, readReply_of_collected hcollected]

/-- Over a device that answers reads at once and whose writes get on, an exchange gets as much of
the stream as the settings allow, if they allow any time. -/
theorem exchange_result_of_delivers {c : Connection} {stream : List UInt8}
    (htime : 0 < c.config.timeoutMs) (hprompt : c.device.Prompt)
    (hwrites : ∀ step ∈ c.device.writes, step.GetsOn)
    (hreads : ReadStep.Delivers c.device.reads stream) (frame : List UInt8) :
    (c.exchange frame).result = .ok ⟨stream.take c.config.maxReply⟩ := by
  refine exchange_result_of_inTime hprompt.accepting ?_ hwrites hreads frame
  rw [ReadStep.deliveryTime_of_atOnce hprompt.reads, Config.timeout]
  omega

end Connection

/-! ## Replies that are cut off or followed by more -/

namespace LocalVersion

/-- What follows a whole event does not count for the version information. -/
theorem decode_append_of_whole {r : List UInt8} (hwhole : 3 + (byteAt r 2).toNat ≤ r.length)
    (later : List UInt8) : decode (r ++ later) = decode r := by
  rw [decode, Event.parse_append_of_whole hwhole, decode]

/-- The beginning of a stream carries version information exactly if the stream does and the
beginning reaches to the end of the event. -/
theorem decode_take_eq_ok_iff {stream : List UInt8} {room : Nat} {v : LocalVersion} :
    decode (stream.take room) = .ok v ↔
      decode stream = .ok v ∧ 3 + (byteAt stream 2).toNat ≤ room := by
  rw [decode_eq_ok_iff, decode_eq_ok_iff]
  constructor
  · intro h
    -- The beginning holds all the places that matter, since it holds a whole event.
    have hlong : 15 ≤ room := by
      have henough := h.enough
      have hwhole := h.whole
      have hle := List.length_take_le room stream
      omega
    have hsame : ∀ place, place < 15 → place ≠ 3 →
        byteAt stream place = byteAt (stream.take room) place := by
      intro place hplace _
      exact (byteAt_take (Nat.lt_of_lt_of_le hplace hlong) stream).symm
    have hwhole := h.whole
    rw [← hsame 2 (by decide) (by decide), List.length_take] at hwhole
    exact ⟨h.of_agree hsame (by omega), by omega⟩
  · rintro ⟨h, hroom⟩
    have henough := h.enough
    have hwhole := h.whole
    have hsame : ∀ place, place < 15 → place ≠ 3 →
        byteAt (stream.take room) place = byteAt stream place := by
      intro place hplace _
      exact byteAt_take (by omega) stream
    refine h.of_agree hsame ?_
    rw [hsame 2 (by decide) (by decide), List.length_take]
    omega

end LocalVersion

/-! ## The query -/

namespace Connection

/-- **The version query, from the device to the version information.**  Let a device answer reads
and timeouts at once, let its writes get on, and let it deliver a stream in whatever chunks and with
whatever interruptions.  With any time for a reply, the query gets the beginning of the stream that
the settings allow.  Version information is decoded from that beginning exactly if the same is
decoded from the whole stream and the event that holds it ends within what the settings allow.  What
follows a whole event in the stream never changes what is decoded. -/
theorem query_decodes {c : Connection} {stream : List UInt8} (htime : 0 < c.config.timeoutMs)
    (hprompt : c.device.Prompt) (hwrites : ∀ step ∈ c.device.writes, step.GetsOn)
    (hreads : ReadStep.Delivers c.device.reads stream) :
    ∃ r : Reply, (c.exchange requestFrame).result = .ok r ∧
      r.bytes = stream.take (min c.config.maxReply stream.length) ∧
      (∀ v, LocalVersion.decode r.bytes = .ok v ↔
        LocalVersion.decode stream = .ok v ∧
          3 + (byteAt stream 2).toNat ≤ c.config.maxReply) ∧
      (∀ reply later, stream = reply ++ later → 3 + (byteAt reply 2).toNat ≤ reply.length →
        LocalVersion.decode stream = LocalVersion.decode reply) := by
  refine ⟨⟨stream.take c.config.maxReply⟩,
    exchange_result_of_delivers htime hprompt hwrites hreads requestFrame, ?_, ?_, ?_⟩
  · exact List.take_eq_take_min
  · intro v
    exact LocalVersion.decode_take_eq_ok_iff
  · rintro reply later rfl hwhole
    exact LocalVersion.decode_append_of_whole hwhole later

/-- A device that delivers a reply in two chunks, with an interruption between them and two more
bytes behind it, and that takes the first byte of a frame by itself. -/
def answering : Device :=
  ⟨7, [⟨0, .ok (LocalVersion.sampleReply.take 3)⟩, ⟨0, .error (.ofKind .interrupted)⟩,
      ⟨0, .ok (LocalVersion.sampleReply.drop 3 ++ [0xAA, 0xBB])⟩,
      ⟨0, .error (.ofKind .timedOut)⟩],
    [⟨0, .ok (some 1)⟩, ⟨0, .error (.ofKind .interrupted)⟩], []⟩

/-- The device answers at once, its writes get on, and it delivers the reply and what is behind
it. -/
theorem answering_delivers :
    answering.Prompt ∧ (∀ step ∈ answering.writes, step.GetsOn) ∧
      ReadStep.Delivers answering.reads (LocalVersion.sampleReply ++ [0xAA, 0xBB]) := by
  refine ⟨⟨?_, ?_⟩, ?_, ?_⟩
  · simp [answering]
  · simp [answering]
  · simp [answering, WriteStep.GetsOn, IoError.ofKind]
  · have hend : ReadStep.Delivers [⟨0, .error (.ofKind .timedOut)⟩] [] := .timedOut 0 rfl []
    have hsecond : ReadStep.Delivers
        [⟨0, .ok (LocalVersion.sampleReply.drop 3 ++ [0xAA, 0xBB])⟩,
          ⟨0, .error (.ofKind .timedOut)⟩]
        (LocalVersion.sampleReply.drop 3 ++ [0xAA, 0xBB] ++ []) := .chunk 0 (by decide) hend
    exact .chunk 0 (by decide) (.interrupted 0 rfl hsecond)

/-- With room for the reply, the query gets the version information; with room for one byte less, it
gets none. -/
theorem query_answering :
    (∃ r : Reply,
        ((ofDevice ⟨"", 115200, 1, 15⟩ answering).exchange requestFrame).result = .ok r ∧
          LocalVersion.decode r.bytes = .ok ⟨0x06, 0x0102, 0x06, 0x000D, 0x0122⟩) ∧
      ∃ r : Reply,
        ((ofDevice ⟨"", 115200, 1, 14⟩ answering).exchange requestFrame).result = .ok r ∧
          ∀ v, LocalVersion.decode r.bytes ≠ .ok v := by
  obtain ⟨hprompt, hwrites, hreads⟩ := answering_delivers
  have hdecoded : LocalVersion.decode (LocalVersion.sampleReply ++ [0xAA, 0xBB])
      = .ok ⟨0x06, 0x0102, 0x06, 0x000D, 0x0122⟩ := by
    refine LocalVersion.decode_eq_ok_iff.2 ?_
    constructor <;> decide
  obtain ⟨r, hr, -, hiff, -⟩ :=
    query_decodes (c := ofDevice ⟨"", 115200, 1, 15⟩ answering) (by decide) hprompt hwrites hreads
  obtain ⟨s, hs, -, hiff', -⟩ :=
    query_decodes (c := ofDevice ⟨"", 115200, 1, 14⟩ answering) (by decide) hprompt hwrites hreads
  refine ⟨⟨r, hr, (hiff _).2 ⟨hdecoded, by decide⟩⟩, s, hs, ?_⟩
  intro v hv
  have hroom : 3 + 12 ≤ 14 := ((hiff' v).1 hv).2
  omega

end Connection

end VersionProbe
