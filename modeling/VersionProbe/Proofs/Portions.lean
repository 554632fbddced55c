/-
# A reply read in two portions

Over a device that answers at once, a reply of so many bytes and a second one of so many more are
together the reply of as many bytes as both, wherever the limit between them falls: within a chunk,
between chunks, or before an interruption, a failure or the end of the stream.  Only a first reply
that ends before its limit, or is lost, leaves nothing for the second to add.

* `readReply_gathered` : what the reading of a reply comes to, and which answers it leaves.
* `readReply_in_portions` : one read with room for both portions, and two reads.
-/
import VersionProbe.Proofs.Chunking

namespace VersionProbe

/-- The reply that consists of the bytes that were collected, or the error that lost it. -/
def Reply.ofCollected : Except IoError (List UInt8) → Except ProbeError Reply
  | .ok bytes => .ok ⟨bytes⟩
  | .error e => .error (.io e)

/-- A reply is made of exactly the bytes that were collected. -/
theorem Reply.ofCollected_eq_ok_iff {result : Except IoError (List UInt8)} {r : Reply} :
    ofCollected result = .ok r ↔ result = .ok r.bytes := by
  cases result with
  | ok bytes =>
    constructor
    · intro h
      rw [← Except.ok.inj h]
    · intro h
      rw [Except.ok.inj h]
      rfl
  | error e => simp [ofCollected]

/-- A reply gathered after some bytes is the reply with these bytes before it. -/
theorem Reply.ofCollected_following (bytes : List UInt8)
    (gathered : Except IoError (List UInt8) × List ReadStep) :
    ofCollected (ReadStep.following bytes gathered).1
      = (ofCollected gathered.1).map fun later => ⟨bytes ++ later.bytes⟩ := by
  obtain ⟨result, rest⟩ := gathered
  cases result <;> rfl

namespace Connection

/-- The same connection with another number of bytes after which a reply ends. -/
def withMaxReply (room : Nat) (c : Connection) : Connection :=
  { c with config := { c.config with maxReply := room } }

/-- The reading of a reply comes to what was collected. -/
theorem result_readReply (c : Connection) :
    c.readReply.result = Reply.ofCollected c.collected.result := by
  cases hres : c.collected.result with
  | ok bytes =>
    rw [readReply_of_collected hres]
    rfl
  | error e =>
    rw [readReply_of_lost hres]
    rfl

/-- With any time for it, a reply over a prompt device is gathered from the answers in store. -/
theorem readReply_gathered {c : Connection} (htime : 0 < c.config.timeoutMs)
    (hprompt : c.device.Prompt) (room : Nat) :
    (c.withMaxReply room).readReply.result
        = Reply.ofCollected (ReadStep.gather room c.device.reads).1 ∧
      (c.withMaxReply room).readReply.state.device.reads
        = (ReadStep.gather room c.device.reads).2 := by
  have hsoon : ReadStep.deliveryTime c.device.reads < c.config.timeout := by
    rw [ReadStep.deliveryTime_of_atOnce hprompt.reads, Config.timeout]
    omega
  obtain ⟨hresult, hreads⟩ := @collected_gathered (c.withMaxReply room) hprompt.accepting hsoon
  rw [result_readReply, device_readReply, hresult]
  exact ⟨rfl, hreads⟩

/-- A prompt device stays prompt while a reply is read. -/
theorem prompt_readReply {c : Connection} (hprompt : c.device.Prompt) :
    c.readReply.state.device.Prompt := by
  rw [device_readReply]
  exact (Device.collect_collecting c.deadline (.blank c.config.maxReply) c.device).prompt hprompt

/-- **Reading in two goes is reading in one.**  Let a device answer at once and accept every
timeout, and let there be any time for a reply.  If a reply of `a` bytes is read, then a read with
room for `a + b` bytes instead comes to what a second read, with room for `b` bytes, makes of it:
the bytes of both replies, or the error of the second read; and it leaves the same answers to reads.
If the first reply is shorter or lost, the read with room for `a + b` bytes comes to the same and
leaves the same answers. -/
theorem readReply_in_portions {c : Connection} (htime : 0 < c.config.timeoutMs)
    (hprompt : c.device.Prompt) (a b : Nat) :
    let first := (c.withMaxReply a).readReply
    let second := (first.state.withMaxReply b).readReply
    let whole := (c.withMaxReply (a + b)).readReply
    (∀ r, first.result = .ok r → r.length = a →
        (∀ s, second.result = .ok s → whole.result = .ok ⟨r.bytes ++ s.bytes⟩) ∧
          (∀ e, second.result = .error e → whole.result = .error e) ∧
            whole.state.device.reads = second.state.device.reads) ∧
      ((∀ r, first.result = .ok r → r.length < a) →
        whole.result = first.result ∧ whole.state.device.reads = first.state.device.reads) := by
  intro first second whole
  have htime' : 0 < first.state.config.timeoutMs := by
    show 0 < (c.withMaxReply a).readReply.state.config.timeoutMs
    rw [readReply_config]
    exact htime
  obtain ⟨hfirst, hleft⟩ := readReply_gathered htime hprompt a
  obtain ⟨hsecond, hlast⟩ := readReply_gathered htime' (prompt_readReply hprompt) b
  obtain ⟨hwhole, hrest⟩ := readReply_gathered htime hprompt (a + b)
  rw [ReadStep.gather_add] at hwhole hrest
  constructor
  · intro r hr hfull
    have hgathered : ReadStep.gather a c.device.reads = (.ok r.bytes, first.state.device.reads) :=
      Prod.ext (Reply.ofCollected_eq_ok_iff.1 (hfirst.symm.trans hr)) hleft.symm
    rw [hgathered, ReadStep.resume_of_full hfull] at hwhole hrest
    rw [Reply.ofCollected_following, ← hsecond] at hwhole
    refine ⟨?_, ?_, hrest.trans hlast.symm⟩
    · intro s hs
      exact hwhole.trans (congrArg _ hs)
    · intro e he
      exact hwhole.trans (congrArg _ he)
  · intro hshort
    have hnot : ∀ bytes, (ReadStep.gather a c.device.reads).1 = .ok bytes → bytes.length ≠ a := by
      intro bytes hbytes
      have hlt : (⟨bytes⟩ : Reply).length < a :=
        hshort ⟨bytes⟩ (hfirst.trans (Reply.ofCollected_eq_ok_iff.2 hbytes))
      exact Nat.ne_of_lt hlt
    rw [ReadStep.resume_of_short hnot] at hwhole hrest
    exact ⟨hwhole.trans hfirst.symm, hrest.trans hleft.symm⟩

/-- A device that delivers three bytes and, after an interruption, two more, then ends its stream,
and has another byte behind the end. -/
def inChunks : Device :=
  ⟨0, [⟨0, .ok [1, 2, 3]⟩, ⟨0, .error (.ofKind .interrupted)⟩, ⟨0, .ok [4, 5]⟩, ⟨0, .ok []⟩,
      ⟨0, .ok [6]⟩], [], []⟩

/-- A limit within the first chunk cuts the reply in two portions, of which the second ends with the
stream.  A reply that ends with the stream before its limit is the same with room for more. -/
theorem portions_inChunks :
    inChunks.Prompt ∧
      (((ofDevice .standard inChunks).withMaxReply 2).readReply.result = .ok ⟨[1, 2]⟩ ∧
          ((ofDevice .standard inChunks).withMaxReply (2 + 4)).readReply.result
            = .ok ⟨[1, 2] ++ [3, 4, 5]⟩) ∧
        ((ofDevice .standard inChunks).withMaxReply 6).readReply.result
            = .ok ⟨[1, 2, 3, 4, 5]⟩ ∧
          ((ofDevice .standard inChunks).withMaxReply (6 + 1)).readReply.result
            = ((ofDevice .standard inChunks).withMaxReply 6).readReply.result := by
  have hprompt : inChunks.Prompt := by
    constructor
    · simp [inChunks]
    · simp [inChunks]
  have hfirst :
      ((ofDevice .standard inChunks).withMaxReply 2).readReply.result = .ok ⟨[1, 2]⟩ := by
    decide +kernel
  have hshort :
      ((ofDevice .standard inChunks).withMaxReply 6).readReply.result
        = .ok ⟨[1, 2, 3, 4, 5]⟩ := by
    decide +kernel
  have hcut := @readReply_in_portions (ofDevice .standard inChunks) (by decide) hprompt 2 4
  have hended := @readReply_in_portions (ofDevice .standard inChunks) (by decide) hprompt 6 1
  obtain ⟨hboth, -, -⟩ := hcut.1 ⟨[1, 2]⟩ hfirst rfl
  refine ⟨hprompt, ⟨hfirst, hboth ⟨[3, 4, 5]⟩ (by decide +kernel)⟩, hshort, (hended.2 ?_).1⟩
  intro r hr
  rw [hshort] at hr
  rw [← Except.ok.inj hr]
  decide

end Connection

end VersionProbe
