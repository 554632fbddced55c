/-
# More time and more room

With a later deadline or room for more bytes, a reply is read from the same device in the same turns
up to the one that stopped the reading before.  So what is delivered begins with what was delivered
before, and a call that loses the reply comes after all of that.  Where it was the device that ended
the reply, with the end of its stream or by timing out, the reply is the same.

* `Passes.widen` : a turn that is made and lets the reading go on does so under wider limits.
* `Brings.prefix_of_le` : under wider limits, the turns bring what they brought before and more.
* `readReply_extends` : what a reply read under wider limits has to do with the one read before.
-/
import VersionProbe.Proofs.Turns

namespace VersionProbe

/-! ## Wider limits -/

namespace Device

section Widen

variable {room room' deadline deadline' k k' : Nat} {d : Device} {bytes bytes' : List UInt8}

/-- A turn that is made and lets the reading go on does so with more room and a later deadline. -/
theorem Passes.widen (h : Passes room deadline d k) (hroom : room ≤ room')
    (htime : deadline ≤ deadline') : Passes room' deadline' d k := by
  obtain ⟨hroomLeft, htimeLeft, honward⟩ := h
  exact ⟨Nat.lt_of_lt_of_le hroomLeft hroom, Nat.lt_of_lt_of_le htimeLeft htime, honward⟩

/-- A turn that is reached is reached with more room and a later deadline. -/
theorem Reaches.widen (h : Reaches room deadline d k) (hroom : room ≤ room')
    (htime : deadline ≤ deadline') : Reaches room' deadline' d k := by
  intro j hj
  exact (h j hj).widen hroom htime

/-- A turn that is reached does not come after one that stops the reading. -/
theorem StopsAt.le_of_reaches (h' : StopsAt room deadline d k') (h : Reaches room deadline d k) :
    k ≤ k' := by
  by_contra hlater
  exact h'.stopped (h k' (Nat.lt_of_not_le hlater))

/-- What some turns bring comes first in what more turns bring. -/
theorem brought_begins (hle : k ≤ k') (d : Device) : d.brought k <+: d.brought k' := by
  unfold brought
  apply List.IsPrefix.flatMap
  exact List.take_prefix_take_left hle

/-- With more room and a later deadline, the turns bring what they brought before and more. -/
theorem Brings.prefix_of_le (h : Brings room deadline d bytes)
    (h' : Brings room' deadline' d bytes') (hroom : room ≤ room') (htime : deadline ≤ deadline') :
    bytes <+: bytes' := by
  obtain ⟨k, hstops, rfl⟩ := h
  obtain ⟨k', hstops', rfl⟩ := h'
  have hle : k ≤ k' := hstops'.le_of_reaches (hstops.reached.widen hroom htime)
  have hmore : (d.brought k).take room <+: (d.brought k').take room :=
    (brought_begins hle d).take room
  exact hmore.trans (List.take_prefix_take_left hroom)

/-- A read call that ends the reply is the one of a turn at which the reply is over, with more room
and a later deadline as well. -/
theorem ReadInTurn.endedAt {earlier : List (Call Nat (Except IoError (List UInt8)))}
    {call : Call Nat (Except IoError (List UInt8))}
    (h : ReadInTurn room deadline d earlier call) (hended : Turning.ofRead call.answer = .ended)
    (hroom : room ≤ room') (htime : deadline ≤ deadline') :
    EndedAt room' deadline' d earlier.length where
  reached := h.reached.widen hroom htime
  ended := Or.inr (Or.inr (h.turning.trans hended))

end Widen

end Device

/-! ## Calls that end or lose a reply -/

/-- Whether a read call ends the reply: it finds the end of the stream, or it times out. -/
def Trace.EndsReply (call : Call Nat (Except IoError (List UInt8))) : Prop :=
  call.answer = .ok [] ∨ ∃ e, call.answer = .error e ∧ e.kind = .timedOut

/-- A read call that ends the reply does so in its turn. -/
theorem Trace.EndsReply.ofRead {call : Call Nat (Except IoError (List UInt8))}
    (h : EndsReply call) : Turning.ofRead call.answer = .ended := by
  rcases h with hend | ⟨e, herror, hkind⟩
  · rw [hend, Turning.ofRead_end]
  · rw [herror, Turning.ofRead_timedOut hkind]

/-- A call that loses the reply delivers nothing. -/
theorem Trace.delivered_of_loss {effect : Effect} {error : IoError}
    (h : effect.loss? = some error) : Trace.delivered [effect] = [] := by
  cases effect with
  | read call =>
    show Trace.arrived call ++ [] = []
    rw [List.append_nil]
    cases hanswer : call.answer with
    | error e => exact Trace.arrived_of_error hanswer
    | ok bytes =>
      -- A read that does not fail lets the reading go on or ends the reply.
      rw [Effect.loss?, hanswer] at h
      cases bytes <;> cases h
  | _ => rfl

namespace Connection

/-! ## The reply -/

/-- A reply that is over at some turn consists of what the turns before have brought. -/
theorem readReply_of_endedAt {c : Connection} {k : Nat}
    (h : Device.EndedAt c.config.maxReply c.deadline c.device k) :
    c.readReply.result = .ok ⟨(c.device.brought k).take c.config.maxReply⟩ := by
  have hdecided := c.collected_decided
  cases hres : c.collected.result with
  | ok bytes =>
    rw [hres] at hdecided
    obtain ⟨k', hended, rfl⟩ := hdecided
    obtain rfl : k = k' := h.stopsAt.unique hended.stopsAt
    rw [readReply_of_collected hres]
    rfl
  | error e =>
    rw [hres] at hdecided
    obtain ⟨k', hlost⟩ := hdecided
    exact absurd h hlost.not_ended

section Extension

variable {c c' : Connection}

/-- With as much time or more, the deadline is no earlier. -/
theorem deadline_le (hdevice : c'.device = c.device)
    (htime : c.config.timeoutMs ≤ c'.config.timeoutMs) : c.deadline ≤ c'.deadline := by
  rw [deadline, deadline, hdevice, Config.timeout, Config.timeout]
  omega

/-- With as much time and room or more, what is delivered begins with what is delivered with
less. -/
theorem delivered_begins (hdevice : c'.device = c.device)
    (htime : c.config.timeoutMs ≤ c'.config.timeoutMs)
    (hroom : c.config.maxReply ≤ c'.config.maxReply) :
    Trace.delivered c.readReply.trace <+: Trace.delivered c'.readReply.trace := by
  have hbrings' := c'.delivered_readReply
  rw [hdevice] at hbrings'
  exact c.delivered_readReply.prefix_of_le hbrings' hroom (deadline_le hdevice htime)

/-- A reply that a read call ends is the same with more time and room. -/
theorem readReply_of_endsReply (hdevice : c'.device = c.device)
    (htime : c.config.timeoutMs ≤ c'.config.timeoutMs)
    (hroom : c.config.maxReply ≤ c'.config.maxReply)
    {call : Call Nat (Except IoError (List UInt8))} (hcall : call ∈ Trace.reads c.readReply.trace)
    (hends : Trace.EndsReply call) : c'.readReply.result = c.readReply.result := by
  obtain ⟨earlier, later, hsplit⟩ := List.append_of_mem hcall
  have hturn := c.readReply_readsInTurn earlier call later hsplit
  have hended := hturn.endedAt hends.ofRead (Nat.le_refl _) (Nat.le_refl _)
  have hended' := hturn.endedAt hends.ofRead hroom (deadline_le hdevice htime)
  rw [← hdevice] at hended'
  -- The turns before have left room even by the narrower limit.
  have hfits : (c.device.brought earlier.length).length ≤ c.config.maxReply := by
    have hasked := hturn.asked
    omega
  rw [readReply_of_endedAt hended, readReply_of_endedAt hended', hdevice,
    List.take_of_length_le hfits, List.take_of_length_le (Nat.le_trans hfits hroom)]

end Extension

/-- **More time or more room only extends a reply.**  Two connections over the same device are
given, the second with as much time and room for a reply as the first, or more.  If a reply is read
over the first, what is delivered over the second begins with this reply; and the reading comes to a
reply that begins with it, or fails with a call that comes after all of it was delivered.  If the
first reply was ended by a read, with the end of the stream or by timing out, the second is the
same. -/
theorem readReply_extends {c c' : Connection} (hdevice : c'.device = c.device)
    (htime : c.config.timeoutMs ≤ c'.config.timeoutMs)
    (hroom : c.config.maxReply ≤ c'.config.maxReply) {r : Reply}
    (hreply : c.readReply.result = .ok r) :
    r.bytes <+: Trace.delivered c'.readReply.trace ∧
      ((∃ r', c'.readReply.result = .ok r' ∧ r.bytes <+: r'.bytes) ∨
        ∃ before last error, c'.readReply.result = .error (.io error) ∧
          c'.readReply.trace = before ++ [last] ∧ last.loss? = some error ∧
            r.bytes <+: Trace.delivered before) ∧
      ((∃ call ∈ Trace.reads c.readReply.trace, Trace.EndsReply call) →
        c'.readReply.result = .ok r) := by
  have hbegins := delivered_begins hdevice htime hroom
  rw [← (readReply_reply c hreply).1] at hbegins
  refine ⟨hbegins, ?_, ?_⟩
  · cases hres : c'.readReply.result with
    | ok r' =>
      left
      refine ⟨r', rfl, ?_⟩
      rwa [(readReply_reply c' hres).1]
    | error e =>
      right
      obtain ⟨before, last, error, htrace, -, hloss, rfl⟩ := readReply_loses_last hres
      refine ⟨before, last, error, rfl, htrace, hloss, ?_⟩
      rwa [htrace, Trace.delivered_append, Trace.delivered_of_loss hloss,
        List.append_nil] at hbegins
  · rintro ⟨call, hcall, hends⟩
    rw [readReply_of_endsReply hdevice htime hroom hcall hends, hreply]

/-- Settings with a millisecond for four bytes. -/
def narrow : Config := ⟨"", 115200, 1, 4⟩

/-- Settings with two milliseconds for eight bytes. -/
def wide : Config := ⟨"", 115200, 2, 8⟩

/-- A device that delivers two chunks with an interruption between them, and then fails. -/
def breaking : Device :=
  ⟨0, [⟨300, .ok [1, 2]⟩, ⟨0, .error (.ofKind .interrupted)⟩, ⟨900, .ok [3, 4, 5, 6]⟩,
      ⟨0, .error (.ofKind .brokenPipe)⟩], [], []⟩

/-- A device that delivers a chunk and then times out. -/
def fallingSilent : Device :=
  ⟨0, [⟨300, .ok [1, 2]⟩, ⟨0, .error .timedOut⟩, ⟨0, .ok [3]⟩], [], []⟩

/-- Where four bytes are wanted, the first four bytes of two chunks are a reply; where more are
wanted, they are delivered and then lost.  A reply that a timeout has ended stays as it is. -/
theorem extends_breaking :
    ((ofDevice narrow breaking).readReply.result = .ok ⟨[1, 2, 3, 4]⟩ ∧
        [1, 2, 3, 4] <+: Trace.delivered (ofDevice wide breaking).readReply.trace ∧
          (ofDevice wide breaking).readReply.result = .error (.io (.ofKind .brokenPipe))) ∧
      (ofDevice narrow fallingSilent).readReply.result = .ok ⟨[1, 2]⟩ ∧
        (ofDevice wide fallingSilent).readReply.result = .ok ⟨[1, 2]⟩ := by
  have hshort : (ofDevice narrow breaking).readReply.result = .ok ⟨[1, 2, 3, 4]⟩ := by
    decide +kernel
  have hsilent : (ofDevice narrow fallingSilent).readReply.result = .ok ⟨[1, 2]⟩ := by
    decide +kernel
  obtain ⟨hdelivered, -, -⟩ :=
    @readReply_extends (ofDevice narrow breaking) (ofDevice wide breaking) rfl (by decide)
      (by decide) _ hshort
  obtain ⟨-, -, hsame⟩ :=
    @readReply_extends (ofDevice narrow fallingSilent) (ofDevice wide fallingSilent) rfl (by decide)
      (by decide) _ hsilent
  refine ⟨⟨hshort, hdelivered, by decide +kernel⟩, hsilent, hsame ?_⟩
  -- The second of the two read calls has timed out.
  have htimedOut : Except.error IoError.timedOut ∈
      (Trace.reads (ofDevice narrow fallingSilent).readReply.trace).map Call.answer := by
    decide +kernel
  obtain ⟨call, hcall, hanswer⟩ := List.mem_map.1 htimedOut
  exact ⟨call, hcall, Or.inr ⟨_, hanswer, rfl⟩⟩

end Connection

end VersionProbe
