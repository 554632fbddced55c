/-
# Chunks and interruptions do not show

A session over a device depends on the stream of the device only, neither on the chunks in which
the data arrives nor on the reads that are interrupted, as long as calls take no time and every
timeout is accepted.  Two runs that differ in these make different calls, so they are not compared
call by call: each is compared with the reading of the stream item by item.

* `harvest_allItems` : what a reply gathers from the answers in store is what it gets by reading
  their items one by one.
* `collected_of_inTime` : so it is also where reads take time, if everything is delivered before the
  deadline.
* `run_alike` : two sessions over alike devices yield the same and stay alike.
-/
import Mathlib.Data.List.Forall2
import VersionProbe.Proofs.Gathering
import VersionProbe.Proofs.Stream
import VersionProbe.Session

namespace VersionProbe

/-! ## Reads and items -/

namespace ReadStep

/-- The items of some steps come before those of the steps after them. -/
theorem allItems_append (steps later : List ReadStep) :
    allItems (steps ++ later) = allItems steps ++ allItems later :=
  List.flatMap_append

/-- The items of a chunk are its bytes. -/
theorem items_of_ne_nil {bytes : List UInt8} (hne : bytes ≠ []) (advance : Nat) :
    items ⟨advance, .ok bytes⟩ = bytes.map .byte := by
  rcases bytes with _ | ⟨b, bs⟩
  · exact absurd rfl hne
  · rfl

/-- What is left of a chunk are the bytes that there was no room for. -/
theorem allItems_leftover (room : Nat) (bytes : List UInt8) :
    allItems (leftover room bytes) = (bytes.drop room).map .byte := by
  rw [leftover]
  split
  · next h =>
    rw [h]
    rfl
  · next hne =>
    rw [allItems_cons, items_of_ne_nil hne]
    exact List.append_nil _

/-- A reply gets the same out of some steps and out of their items, and leaves the items of the
steps that it leaves. -/
theorem harvest_allItems (room : Nat) (steps : List ReadStep) :
    harvest room (allItems steps) = ((gather room steps).1, allItems (gather room steps).2) := by
  induction steps generalizing room with
  | nil => exact harvest_nil room
  | cons step rest ih =>
    rcases Nat.eq_zero_or_pos room with rfl | hroom
    · rw [harvest_of_no_room rfl, gather_zero]
    · obtain ⟨advance, answer⟩ := step
      rw [allItems_cons]
      match answer with
      | .ok [] =>
        rw [gather_end hroom]
        exact harvest_stop hroom _
      | .ok (first :: later) =>
        rw [items_of_ne_nil (List.cons_ne_nil _ _)]
        rcases Nat.le_total (first :: later).length room with hfits | hfills
        · rw [harvest_bytes _ _ hfits, gather_fits (List.cons_ne_nil _ _) hfits, ih, following]
        · rw [harvest_bytes_of_le _ hfills, gather_fills hroom hfills, allItems_append,
            allItems_leftover]
      | .error e =>
        by_cases hkind : e.kind = .interrupted
        · have hinterrupted : isInterrupted ⟨advance, .error e⟩ := decide_eq_true hkind
          rw [items_of_isInterrupted hinterrupted, gather_interrupted hroom hkind]
          exact ih room
        · have hitems : items ⟨advance, .error e⟩ = [.failure e] := if_neg hkind
          rw [hitems, gather_failure hroom hkind]
          exact harvest_failure hroom e _

end ReadStep

namespace Device

/-- The items of the stream of a device. -/
def items (d : Device) : List Item :=
  ReadStep.allItems d.reads

/-! ## Prompt devices -/

/-- A device is prompt if no read and no setting of the timeout is going to take time, and every
timeout is going to be accepted. -/
structure Prompt (d : Device) : Prop where
  reads : ∀ step ∈ d.reads, step.advance = 0
  timeouts : ∀ step ∈ d.timeouts, step.advance = 0 ∧ step.answer = .ok ()

namespace Prompt

variable {d : Device}

/-- Whether a device is prompt does not depend on its clock or its answers to writes. -/
theorem of_eq {d' : Device} (h : d.Prompt) (hreads : d'.reads = d.reads)
    (htimeouts : d'.timeouts = d.timeouts) : d'.Prompt := by
  constructor
  · rw [hreads]
    exact h.reads
  · rw [htimeouts]
    exact h.timeouts

/-- A prompt device is accepting. -/
theorem accepting (h : d.Prompt) : d.Accepting :=
  h.timeouts

/-- A prompt device stays prompt when the timeout is set. -/
theorem setTimeout (h : d.Prompt) (timeout : Nat) : (d.setTimeout timeout).device.Prompt := by
  refine ⟨?_, (h.accepting.setTimeout timeout).1⟩
  rw [setTimeout_reads]
  exact h.reads

/-- A prompt device stays prompt when it is read from. -/
theorem read (h : d.Prompt) (room : Nat) : (d.read room).device.Prompt := by
  obtain ⟨clock, reads, writes, timeouts⟩ := d
  match reads with
  | [] => exact h
  | ⟨advance, .error e⟩ :: rest => exact ⟨(List.forall_mem_cons.1 h.reads).2, h.timeouts⟩
  | ⟨advance, .ok offered⟩ :: rest =>
    refine ⟨?_, h.timeouts⟩
    intro step hstep
    rcases List.mem_append.1 hstep with hleft | hrest
    · -- What is left of a chunk takes no time, whatever the chunk took.
      rw [ReadStep.leftover] at hleft
      split at hleft
      · cases hleft
      · rw [List.mem_singleton.1 hleft]
    · exact h.reads step (List.mem_cons_of_mem _ hrest)

/-- A prompt device stays prompt when it is supplied with prompt answers. -/
theorem feed (h : d.Prompt) {s : Supply} (hs : (silent.feed s).Prompt) : (d.feed s).Prompt := by
  constructor
  · intro step hstep
    exact (List.mem_append.1 hstep).elim (h.reads step) (hs.reads step)
  · intro step hstep
    exact (List.mem_append.1 hstep).elim (h.timeouts step) (hs.timeouts step)

/-- A prompt device stays prompt during a turn of the loop. -/
theorem turn (h : d.Prompt) {deadline : Nat} {b : Buffer}
    {armed : Answered Nat (Except SerialError Unit)}
    {answered : Answered Nat (Except IoError (List UInt8))}
    (turn : Turn deadline b d armed answered) : answered.device.Prompt := by
  have hread := (h.setTimeout (deadline - d.clock)).read b.room
  rwa [turn.arming, turn.reading] at hread

end Prompt

/-! ## The two loops -/

section Loops

variable {deadline : Nat} {b : Buffer} {d : Device} {frame : List UInt8}
  {armed : Answered Nat (Except SerialError Unit)}
  {answered : Answered Nat (Except IoError (List UInt8))}

/-- What a write comes to depends on the answers to writes only. -/
theorem write_congr {d' : Device} (h : d'.writes = d.writes) :
    (d'.write frame).call.answer = (d.write frame).call.answer ∧
      (d'.write frame).device.writes = (d.write frame).device.writes := by
  obtain ⟨clock, reads, writes, timeouts⟩ := d
  obtain ⟨clock', reads', writes', timeouts'⟩ := d'
  obtain rfl : writes' = writes := h
  rcases writes' with _ | ⟨step, rest⟩
  · exact ⟨rfl, rfl⟩
  · exact ⟨rfl, rfl⟩

/-- What the writing of a frame comes to depends on the answers to writes only. -/
theorem Writing.congr {o : Outcome Device IoError Unit} (h : Writing frame d o) {d' : Device}
    (hwrites : d'.writes = d.writes) :
    (d'.writeAll frame).result = o.result ∧
      (d'.writeAll frame).state.writes = o.state.writes := by
  induction h generalizing d' with
  | done d =>
    rw [writeAll]
    exact ⟨rfl, hwrites⟩
  | stuck hne h =>
    obtain ⟨hanswer, hrest⟩ := write_congr hwrites
    rw [writeAll_of_ne_nil hne, hanswer, h]
    exact ⟨rfl, hrest⟩
  | taken hne h rest ih =>
    obtain ⟨hanswer, hrest⟩ := write_congr hwrites
    rw [writeAll_of_ne_nil hne, hanswer, h]
    exact ih hrest
  | interrupted hne h hkind again ih =>
    obtain ⟨hanswer, hrest⟩ := write_congr hwrites
    rw [writeAll_of_ne_nil hne, hanswer, h]
    simp only [if_pos hkind]
    exact ih hrest
  | failed hne h hkind =>
    obtain ⟨hanswer, hrest⟩ := write_congr hwrites
    rw [writeAll_of_ne_nil hne, hanswer, h]
    simp only [if_neg hkind, true_and]
    exact hrest

/-- A prompt device stays prompt while a reply is collected. -/
theorem Collecting.prompt {o : Outcome Device IoError (List UInt8)} (h : Collecting deadline b d o)
    (hprompt : d.Prompt) : o.state.Prompt := by
  induction h with
  | full h => exact hprompt
  | late hroom h => exact hprompt
  | refused hroom htime harmed h =>
    rw [← harmed]
    exact hprompt.setTimeout _
  | ended turn h => exact hprompt.turn turn
  | data turn h hne fits rest ih => exact ih (hprompt.turn turn)
  | timedOut turn h hkind => exact hprompt.turn turn
  | interrupted turn h hkind again ih => exact ih (hprompt.turn turn)
  | failed turn h htimedOut hinterrupted => exact hprompt.turn turn

end Loops

/-! ## Alike devices -/

/-- Two devices are alike if both are prompt, writes come to the same on both, and their streams
differ only in chunks and interrupted reads. -/
structure Alike (d d' : Device) : Prop where
  prompt : d.Prompt
  prompt' : d'.Prompt
  writes : d'.writes = d.writes
  stream : ReadStep.SameStream d.reads d'.reads

/-- Prompt devices with the same answers to writes are alike exactly when they hold the same
items. -/
theorem alike_iff {d d' : Device} (h : d.Prompt) (h' : d'.Prompt) (hwrites : d'.writes = d.writes) :
    d.Alike d' ↔ d.items = d'.items := by
  have hiff := ReadStep.sameStream_iff h.reads h'.reads
  constructor
  · exact fun halike => hiff.1 halike.stream
  · exact fun hitems => ⟨h, h', hwrites, hiff.2 hitems⟩

namespace Alike

variable {d d' : Device}

/-- Alike devices hold the same items. -/
theorem items (h : d.Alike d') : d.items = d'.items :=
  (alike_iff h.prompt h.prompt' h.writes).1 h

/-- Writing a frame comes to the same on alike devices, and leaves them alike. -/
theorem writeAll (h : d.Alike d') (frame : List UInt8) :
    (d'.writeAll frame).result = (d.writeAll frame).result ∧
      (d.writeAll frame).state.Alike (d'.writeAll frame).state := by
  have hwriting := writeAll_writing frame d
  have hwriting' := writeAll_writing frame d'
  obtain ⟨hresult, hwrites⟩ := hwriting.congr h.writes
  refine ⟨hresult, ?_, ?_, hwrites, ?_⟩
  · exact h.prompt.of_eq hwriting.reads_state hwriting.timeouts_state
  · exact h.prompt'.of_eq hwriting'.reads_state hwriting'.timeouts_state
  · rw [hwriting.reads_state, hwriting'.reads_state]
    exact h.stream

/-- Alike devices stay alike when they are supplied with the same prompt answers. -/
theorem feed (h : d.Alike d') {s : Supply} (hs : (silent.feed s).Prompt) :
    (d.feed s).Alike (d'.feed s) := by
  refine (alike_iff (h.prompt.feed hs) (h.prompt'.feed hs) ?_).2 ?_
  · exact congrArg (· ++ s.writes) h.writes
  · show ReadStep.allItems (d.reads ++ s.reads) = ReadStep.allItems (d'.reads ++ s.reads)
    rw [ReadStep.allItems_append, ReadStep.allItems_append]
    exact congrArg (· ++ _) h.items

end Alike

end Device

/-! ## Alike connections -/

/-- What a reply read by the settings gets out of a stream, and what is left of the stream; without
any time for it, nothing is read. -/
def Config.harvest (config : Config) (items : List Item) :
    Except IoError (List UInt8) × List Item :=
  if config.timeout = 0 then (.ok [], items) else VersionProbe.harvest config.maxReply items

namespace Connection

/-- Over an accepting device that delivers within the time for a reply, the reply is gathered from
the answers in store. -/
theorem collected_gathered {c : Connection} (haccepting : c.device.Accepting)
    (htime : ReadStep.deliveryTime c.device.reads < c.config.timeout) :
    c.collected.result = (ReadStep.gather c.config.maxReply c.device.reads).1 ∧
      c.collected.state.reads = (ReadStep.gather c.config.maxReply c.device.reads).2 := by
  have hcollecting := Device.collect_collecting c.deadline (.blank c.config.maxReply) c.device
  obtain ⟨hresult, hreads⟩ :=
    hcollecting.gathered haccepting (Nat.add_lt_add_left htime c.device.clock)
  rw [Buffer.room_blank] at hresult hreads
  exact ⟨hresult.trans (congrFun Except.map_id _), hreads⟩

/-- Over an accepting device that delivers within the time for a reply, the reply is read item by
item. -/
theorem collected_of_inTime {c : Connection} (haccepting : c.device.Accepting)
    (htime : ReadStep.deliveryTime c.device.reads < c.config.timeout) :
    c.collected.result = (VersionProbe.harvest c.config.maxReply c.device.items).1 ∧
      c.collected.state.items = (VersionProbe.harvest c.config.maxReply c.device.items).2 := by
  obtain ⟨hresult, hreads⟩ := collected_gathered haccepting htime
  rw [Device.items, Device.items, ReadStep.harvest_allItems, hreads]
  exact ⟨hresult, rfl⟩

/-- Over a prompt device a reply is read item by item. -/
theorem collected_harvested {c : Connection} (h : c.device.Prompt) :
    c.collected.result = (c.config.harvest c.device.items).1 ∧
      c.collected.state.items = (c.config.harvest c.device.items).2 := by
  unfold Config.harvest
  split
  · next hnone =>
    -- The deadline is now, so the loop is left before the first call.
    have hlate : c.deadline ≤ c.device.clock := by
      rw [deadline, hnone]
      exact Nat.le_refl _
    obtain ⟨hresult, hstate, -⟩ : c.collected.result = .ok [] ∧ c.collected.state = c.device ∧ _ :=
      Device.collect_at_once (Or.inr hlate)
    exact ⟨hresult, congrArg Device.items hstate⟩
  · next hsome =>
    refine collected_of_inTime h.accepting ?_
    rw [ReadStep.deliveryTime_of_atOnce h.reads]
    exact Nat.pos_of_ne_zero hsome

/-- Two connections are alike if they have the same settings and counters and alike devices. -/
structure Alike (c c' : Connection) : Prop where
  config : c'.config = c.config
  device : c.device.Alike c'.device
  sent : c'.sent = c.sent
  received : c'.received = c.received

namespace Alike

variable {c c' : Connection}

/-- Collecting a reply comes to the same on alike connections, and leaves the devices alike. -/
theorem collected (h : c.Alike c') :
    c'.collected.result = c.collected.result ∧ c.collected.state.Alike c'.collected.state := by
  have hcollecting := Device.collect_collecting c.deadline (.blank c.config.maxReply) c.device
  have hcollecting' := Device.collect_collecting c'.deadline (.blank c'.config.maxReply) c'.device
  obtain ⟨hresult, hitems⟩ := collected_harvested h.device.prompt
  obtain ⟨hresult', hitems'⟩ := collected_harvested h.device.prompt'
  rw [h.config, ← h.device.items] at hresult' hitems'
  refine ⟨hresult'.trans hresult.symm, ?_⟩
  refine (Device.alike_iff (hcollecting.prompt h.device.prompt)
    (hcollecting'.prompt h.device.prompt') ?_).2 (hitems.trans hitems'.symm)
  exact hcollecting'.writes_state.trans (h.device.writes.trans hcollecting.writes_state.symm)

/-- A frame is sent or not on alike connections, which stay alike. -/
theorem send (h : c.Alike c') (frame : List UInt8) :
    (c'.send frame).result = (c.send frame).result ∧
      (c.send frame).state.Alike (c'.send frame).state := by
  obtain ⟨hresult, hdevice⟩ := h.device.writeAll frame
  cases hwritten : (c.device.writeAll frame).result with
  | ok u =>
    rw [hwritten] at hresult
    rw [send_of_written hwritten, send_of_written hresult]
    exact ⟨rfl, h.config, hdevice, congrArg (· + frame.length) h.sent, h.received⟩
  | error e =>
    rw [hwritten] at hresult
    rw [send_of_unwritten hwritten, send_of_unwritten hresult]
    exact ⟨rfl, h.config, hdevice, h.sent, h.received⟩

/-- The same reply is read, or the same error met, on alike connections, which stay alike. -/
theorem readReply (h : c.Alike c') :
    c'.readReply.result = c.readReply.result ∧ c.readReply.state.Alike c'.readReply.state := by
  obtain ⟨hresult, hdevice⟩ := h.collected
  cases hcollected : c.collected.result with
  | ok bytes =>
    rw [hcollected] at hresult
    rw [readReply_of_collected hcollected, readReply_of_collected hresult]
    exact ⟨rfl, h.config, hdevice, h.sent, congrArg (· + bytes.length) h.received⟩
  | error e =>
    rw [hcollected] at hresult
    rw [readReply_of_lost hcollected, readReply_of_lost hresult]
    exact ⟨rfl, h.config, hdevice, h.sent, h.received⟩

/-- An exchange comes to the same on alike connections, which stay alike. -/
theorem exchange (h : c.Alike c') (frame : List UInt8) :
    (c'.exchange frame).result = (c.exchange frame).result ∧
      (c.exchange frame).state.Alike (c'.exchange frame).state := by
  obtain ⟨hresult, hsent⟩ := h.send frame
  cases hsend : (c.send frame).result with
  | ok u =>
    rw [hsend] at hresult
    rw [exchange_of_send_ok hsend, exchange_of_send_ok hresult]
    exact hsent.readReply
  | error e =>
    rw [hsend] at hresult
    rw [exchange_of_send_error hsend, exchange_of_send_error hresult]
    exact ⟨rfl, hsent⟩

end Alike

end Connection

/-! ## Alike sessions -/

/-- An action is prompt unless it lets the device come by answers that take time or refuse a
timeout; what is done with the connection itself is always prompt. -/
def Action.Prompt : Action → Prop
  | .feed supply => (Device.silent.feed supply).Prompt
  | _ => True

namespace Session

/-- Two sessions are alike if their connections are and they keep the same reply. -/
structure Alike (s s' : Session) : Prop where
  connection : s.connection.Alike s'.connection
  last : s'.last = s.last

/-- Two outcomes of an action agree if the results are the same and the sessions are alike. -/
structure Agree (o o' : Outcome Session ProbeError Answer) : Prop where
  result : o'.result = o.result
  state : o.state.Alike o'.state

/-- Reads that agree make actions that agree. -/
theorem agree_afterReading {o o' : Outcome Connection ProbeError Reply}
    (hresult : o'.result = o.result) (hstate : o.state.Alike o'.state) :
    Agree (afterReading o) (afterReading o') := by
  unfold afterReading
  rw [hresult]
  cases o.result with
  | ok r => exact ⟨rfl, hstate, rfl⟩
  | error e => exact ⟨rfl, hstate, rfl⟩

/-- An action comes to the same on alike sessions, which stay alike. -/
theorem Alike.perform {s s' : Session} (h : s.Alike s') {action : Action}
    (haction : action.Prompt) : Agree (s.perform action) (s'.perform action) := by
  cases action with
  | send frame =>
    obtain ⟨hresult, hstate⟩ := h.connection.send frame
    exact ⟨congrArg (Except.map _) hresult, hstate, h.last⟩
  | read =>
    obtain ⟨hresult, hstate⟩ := h.connection.readReply
    exact agree_afterReading hresult hstate
  | exchange frame =>
    obtain ⟨hresult, hstate⟩ := h.connection.exchange frame
    exact agree_afterReading hresult hstate
  | decode => exact ⟨by simp only [Session.perform, h.last], h⟩
  | feed supply =>
    have hdevice := h.connection.device.feed haction
    exact ⟨rfl, ⟨h.connection.config, hdevice, h.connection.sent, h.connection.received⟩, h.last⟩

/-- The actions of a run come to the same on alike sessions, one by one and at the end. -/
theorem Alike.run {s s' : Session} (h : s.Alike s') {actions : List Action}
    (hprompt : ∀ action ∈ actions, action.Prompt) :
    List.Forall₂ Agree (run actions s) (run actions s') ∧
      (final actions s).Alike (final actions s') := by
  induction actions generalizing s s' with
  | nil => exact ⟨List.Forall₂.nil, h⟩
  | cons action rest ih =>
    have hfirst := h.perform (hprompt action List.mem_cons_self)
    obtain ⟨hrest, hfinal⟩ :=
      ih hfirst.state fun other hother => hprompt other (List.mem_cons_of_mem _ hother)
    exact ⟨List.Forall₂.cons hfirst hrest, hfinal⟩

/-- **Chunking and interruptions are invisible.**  Two devices are given that answer at once, accept
every timeout, have the same answers in store for writes, and hold the same stream in whatever
chunks and with whatever interruptions.  Then the same actions with the same settings come to the
same result over both, one by one, with the same counters and the same stream left after each, and
at the end. -/
theorem run_agree_of_alike (config : Config) {device device' : Device}
    (halike : device.Alike device') (actions : List Action)
    (hprompt : ∀ action ∈ actions, action.Prompt) :
    List.Forall₂ Agree (run actions (start config device)) (run actions (start config device')) ∧
      (final actions (start config device)).Alike (final actions (start config device')) := by
  have hstart : (start config device).Alike (start config device') :=
    ⟨⟨rfl, halike, rfl, rfl⟩, rfl⟩
  exact hstart.run hprompt

/-- A device that delivers four bytes in one chunk. -/
def wholeChunk : Device :=
  ⟨0, [⟨0, .ok [4, 14, 12, 1]⟩], [⟨0, .ok (some 1)⟩], []⟩

/-- A device that delivers the same bytes in two chunks, with an interruption between them. -/
def twoChunks : Device :=
  ⟨7, [⟨0, .ok [4]⟩, ⟨0, .error (.ofKind .interrupted)⟩, ⟨0, .ok [14, 12, 1]⟩],
    [⟨0, .ok (some 1)⟩], [⟨0, .ok ()⟩]⟩

/-- With room for three bytes, the limit falls into a chunk of either device. -/
theorem agree_twoChunks :
    wholeChunk.Alike twoChunks ∧
      List.Forall₂ Agree
        (run [.read, .exchange [1, 1]] (start ⟨"", 115200, 1, 3⟩ wholeChunk))
        (run [.read, .exchange [1, 1]] (start ⟨"", 115200, 1, 3⟩ twoChunks)) ∧
      (run [.read, .exchange [1, 1]] (start ⟨"", 115200, 1, 3⟩ wholeChunk)).map Outcome.result
        = [.ok (.reply ⟨[4, 14, 12]⟩), .ok (.reply ⟨[1]⟩)] := by
  have halike : wholeChunk.Alike twoChunks := by
    refine ⟨⟨?_, ?_⟩, ⟨?_, ?_⟩, rfl, rfl⟩
    · simp [wholeChunk]
    · simp [wholeChunk]
    · simp [twoChunks]
    · simp [twoChunks]
  refine ⟨halike, ?_, by decide +kernel⟩
  refine (run_agree_of_alike _ halike [.read, .exchange [1, 1]] ?_).1
  simp [Action.Prompt]

end Session

end VersionProbe
