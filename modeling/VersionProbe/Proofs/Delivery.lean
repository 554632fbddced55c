/-
# The time of a delivery

A device that is read from again and again delivers its stream up to the first read that ends it or
fails.  The reads before that one bring a chunk or are interrupted, and each takes its time; the
last one may take any time, since nothing is delivered after it.  How the chunks are cut by the
reader does not matter: what is left of a chunk is there at once.

* `deliveredAt` : the clock reading at which everything is delivered, if reads follow each other
  without a pause.
* `Turn.deliveredAt_of_bytes`, `Turn.deliveredAt_of_interrupted` : it is an invariant of the loop
  that collects a reply.
-/
import VersionProbe.Transfer

namespace VersionProbe

/-! ## Reads -/

namespace ReadStep

/-- The time that reads take up to the first one that ends the stream or fails, which is not
counted. -/
def deliveryTime : List ReadStep → Nat
  | [] => 0
  | ⟨_, .ok []⟩ :: _ => 0
  | ⟨advance, .ok (_ :: _)⟩ :: rest => advance + deliveryTime rest
  | ⟨advance, .error e⟩ :: rest =>
    if e.kind = .interrupted then advance + deliveryTime rest else 0

/-- A chunk takes its time. -/
theorem deliveryTime_chunk {bytes : List UInt8} (hne : bytes ≠ []) (advance : Nat)
    (rest : List ReadStep) :
    deliveryTime (⟨advance, .ok bytes⟩ :: rest) = advance + deliveryTime rest := by
  obtain ⟨first, later, rfl⟩ := List.exists_cons_of_ne_nil hne
  rfl

/-- An interrupted read takes its time. -/
theorem deliveryTime_interrupted {e : IoError} (h : e.kind = .interrupted) (advance : Nat)
    (rest : List ReadStep) :
    deliveryTime (⟨advance, .error e⟩ :: rest) = advance + deliveryTime rest :=
  if_pos h

/-- What is left of a chunk takes no time. -/
theorem deliveryTime_leftover (room : Nat) (bytes : List UInt8) (rest : List ReadStep) :
    deliveryTime (leftover room bytes ++ rest) = deliveryTime rest := by
  rw [leftover]
  split
  · rfl
  · next hne => exact (deliveryTime_chunk hne 0 rest).trans (Nat.zero_add _)

/-- Reads that take no time deliver at once. -/
theorem deliveryTime_of_atOnce {steps : List ReadStep} (h : ∀ step ∈ steps, step.advance = 0) :
    deliveryTime steps = 0 := by
  fun_induction deliveryTime steps with
  | case1 => rfl
  | case2 => rfl
  | case3 advance first later rest ih =>
    obtain ⟨hfirst, hrest⟩ := List.forall_mem_cons.1 h
    rw [ih hrest]
    exact hfirst
  | case4 advance e rest hkind ih =>
    obtain ⟨hfirst, hrest⟩ := List.forall_mem_cons.1 h
    rw [ih hrest]
    exact hfirst
  | case5 => rfl

end ReadStep

/-! ## Devices -/

namespace Device

/-- A device is accepting if every timeout is going to be accepted at once. -/
def Accepting (d : Device) : Prop :=
  ∀ step ∈ d.timeouts, step.advance = 0 ∧ step.answer = .ok ()

/-- The clock reading at which a device that is read from without a pause has delivered its stream,
up to the first read that ends it or fails. -/
def deliveredAt (d : Device) : Nat :=
  d.clock + ReadStep.deliveryTime d.reads

/-- A delivery is not over before it has begun. -/
theorem clock_le_deliveredAt (d : Device) : d.clock ≤ d.deliveredAt :=
  Nat.le_add_right _ _

section Read

variable {room : Nat} {d : Device}

/-- A read that brings bytes does not change when everything is delivered. -/
theorem deliveredAt_of_read_bytes {bytes : List UInt8} (h : (d.read room).call.answer = .ok bytes)
    (hne : bytes ≠ []) : (d.read room).device.deliveredAt = d.deliveredAt := by
  obtain ⟨clock, reads, writes, timeouts⟩ := d
  match reads with
  | [] => cases h
  | ⟨advance, .error e⟩ :: rest => cases h
  | ⟨advance, .ok offered⟩ :: rest =>
    obtain rfl : offered.take room = bytes := Except.ok.inj h
    have hoffered : offered ≠ [] := by
      rintro rfl
      exact hne List.take_nil
    show clock + advance + ReadStep.deliveryTime (ReadStep.leftover room offered ++ rest)
      = clock + ReadStep.deliveryTime (⟨advance, .ok offered⟩ :: rest)
    rw [ReadStep.deliveryTime_leftover, ReadStep.deliveryTime_chunk hoffered, Nat.add_assoc]

/-- An interrupted read does not change when everything is delivered. -/
theorem deliveredAt_of_read_interrupted {e : IoError}
    (h : (d.read room).call.answer = .error e) (hkind : e.kind = .interrupted) :
    (d.read room).device.deliveredAt = d.deliveredAt := by
  obtain ⟨clock, reads, writes, timeouts⟩ := d
  match reads with
  | [] =>
    obtain rfl : IoError.timedOut = e := Except.error.inj h
    cases hkind
  | ⟨advance, .error f⟩ :: rest =>
    obtain rfl : f = e := Except.error.inj h
    show clock + advance + ReadStep.deliveryTime rest
      = clock + ReadStep.deliveryTime (⟨advance, .error f⟩ :: rest)
    rw [ReadStep.deliveryTime_interrupted hkind, Nat.add_assoc]
  | ⟨advance, .ok offered⟩ :: rest => cases h

end Read

namespace Accepting

variable {d : Device}

/-- Whether a device is accepting depends on its answers to timeouts only. -/
theorem of_eq {d' : Device} (h : d.Accepting) (htimeouts : d'.timeouts = d.timeouts) :
    d'.Accepting := by
  unfold Accepting
  rw [htimeouts]
  exact h

/-- An accepting device accepts the timeout at once and stays accepting. -/
theorem setTimeout (h : d.Accepting) (timeout : Nat) :
    (d.setTimeout timeout).device.Accepting ∧ (d.setTimeout timeout).call.took = 0 ∧
      (d.setTimeout timeout).call.answer = .ok () := by
  obtain ⟨clock, reads, writes, timeouts⟩ := d
  match timeouts with
  | [] => exact ⟨h, rfl, rfl⟩
  | step :: rest =>
    obtain ⟨hfirst, hrest⟩ := List.forall_mem_cons.1 h
    exact ⟨hrest, hfirst⟩

/-- Setting the timeout of an accepting device does not change when everything is delivered. -/
theorem deliveredAt_setTimeout (h : d.Accepting) (timeout : Nat) :
    (d.setTimeout timeout).device.deliveredAt = d.deliveredAt := by
  rw [deliveredAt, setTimeout_clock, (h.setTimeout timeout).2.1, setTimeout_reads, deliveredAt]
  rfl

end Accepting

/-! ## One turn of the loop -/

section Turn

variable {deadline : Nat} {b : Buffer} {d : Device}
  {armed : Answered Nat (Except SerialError Unit)}
  {answered : Answered Nat (Except IoError (List UInt8))}

/-- A turn leaves an accepting device accepting. -/
theorem Accepting.turn (h : d.Accepting) (turn : Turn deadline b d armed answered) :
    answered.device.Accepting := by
  have hset := (h.setTimeout (deadline - d.clock)).1
  rw [turn.arming] at hset
  rw [← turn.reading]
  exact hset.of_eq (read_timeouts _ _)

/-- The device that a turn reads from has delivered everything when it would have before. -/
theorem Turn.deliveredAt_armed (turn : Turn deadline b d armed answered) (h : d.Accepting) :
    armed.device.deliveredAt = d.deliveredAt := by
  rw [← turn.arming, h.deliveredAt_setTimeout]

/-- A turn that brings bytes does not change when everything is delivered. -/
theorem Turn.deliveredAt_of_bytes (turn : Turn deadline b d armed answered) (h : d.Accepting)
    {bytes : List UInt8} (hanswer : answered.call.answer = .ok bytes) (hne : bytes ≠ []) :
    answered.device.deliveredAt = d.deliveredAt := by
  obtain rfl := turn.reading
  rw [deliveredAt_of_read_bytes hanswer hne, turn.deliveredAt_armed h]

/-- An interrupted turn does not change when everything is delivered. -/
theorem Turn.deliveredAt_of_interrupted (turn : Turn deadline b d armed answered)
    (h : d.Accepting) {e : IoError} (hanswer : answered.call.answer = .error e)
    (hkind : e.kind = .interrupted) : answered.device.deliveredAt = d.deliveredAt := by
  obtain rfl := turn.reading
  rw [deliveredAt_of_read_interrupted hanswer hkind, turn.deliveredAt_armed h]

end Turn

end Device

end VersionProbe
