/-
# Devices

A device is known by what it is going to answer: for each call of a kind the time that the call
takes and what it comes to, and a clock that moves only during calls.  A device that has run out of
answers takes every byte, accepts every timeout, and delivers nothing more.

`Device.pending` is the view of a device as a stream: the bytes that it has still to deliver.

* `pending_read` : a read takes the bytes that it delivers from the front of the stream.
-/
import VersionProbe.Trace

namespace VersionProbe

/-! ## Answers to come -/

/-- The answer to one read call: the bytes on offer, or a failure. -/
structure ReadStep where
  advance : Nat
  answer : Except IoError (List UInt8)

/-- The answer to one write call: how many bytes are taken at most, or all of them, or a failure. -/
structure WriteStep where
  advance : Nat
  answer : Except IoError (Option Nat)

/-- The answer to one call that sets the timeout. -/
structure TimeoutStep where
  advance : Nat
  answer : Except SerialError Unit

/-- A device: the time in microseconds and its answers to come, first ones first. -/
structure Device where
  clock : Nat
  reads : List ReadStep
  writes : List WriteStep
  timeouts : List TimeoutStep

/-- A call together with the device as it is afterwards. -/
structure Answered (α β : Type) where
  call : Call α β
  device : Device

/-- The bytes that a step has to offer. -/
def ReadStep.bytes (step : ReadStep) : List UInt8 :=
  match step.answer with
  | .ok bytes => bytes
  | .error _ => []

/-- The step that is left of some bytes once a read has taken what it has room for. -/
def ReadStep.leftover (room : Nat) (bytes : List UInt8) : List ReadStep :=
  match bytes.drop room with
  | [] => []
  | rest => [⟨0, .ok rest⟩]

namespace Device

/-- A device without any answers, at time zero. -/
def silent : Device :=
  ⟨0, [], [], []⟩

/-! ## Calls -/

/-- Ask for at most `room` bytes.  Bytes that there is no room for stay with the device, and a
device without answers times out at once. -/
def read (room : Nat) (d : Device) : Answered Nat (Except IoError (List UInt8)) :=
  match d.reads with
  | [] => ⟨⟨d.clock, 0, room, .error IoError.timedOut⟩, d⟩
  | ⟨advance, .error e⟩ :: rest =>
    ⟨⟨d.clock, advance, room, .error e⟩, { d with clock := d.clock + advance, reads := rest }⟩
  | ⟨advance, .ok bytes⟩ :: rest =>
    ⟨⟨d.clock, advance, room, .ok (bytes.take room)⟩,
      { d with clock := d.clock + advance, reads := ReadStep.leftover room bytes ++ rest }⟩

/-- Offer bytes; the device takes some of them from the front. -/
def write (frame : List UInt8) (d : Device) : Answered (List UInt8) (Except IoError Nat) :=
  match d.writes with
  | [] => ⟨⟨d.clock, 0, frame, .ok frame.length⟩, d⟩
  | ⟨advance, answer⟩ :: rest =>
    ⟨⟨d.clock, advance, frame, answer.map fun quota => (quota.getD frame.length).min frame.length⟩,
      { d with clock := d.clock + advance, writes := rest }⟩

/-- Set how many microseconds the next read may wait. -/
def setTimeout (timeout : Nat) (d : Device) : Answered Nat (Except SerialError Unit) :=
  match d.timeouts with
  | [] => ⟨⟨d.clock, 0, timeout, .ok ()⟩, d⟩
  | ⟨advance, answer⟩ :: rest =>
    ⟨⟨d.clock, advance, timeout, answer⟩,
      { d with clock := d.clock + advance, timeouts := rest }⟩

/-! ## The stream -/

/-- The bytes that a device has still to deliver. -/
def pending (d : Device) : List UInt8 :=
  d.reads.flatMap ReadStep.bytes

/-- What is left of some bytes is what there was no room for. -/
theorem bytes_leftover (room : Nat) (bytes : List UInt8) :
    (ReadStep.leftover room bytes).flatMap ReadStep.bytes = bytes.drop room := by
  rw [ReadStep.leftover]
  split
  · next h => rw [h]; rfl
  · next h => simp [ReadStep.bytes]

/-- A read takes the bytes that it delivers from the front of the stream. -/
theorem pending_read (room : Nat) (d : Device) :
    d.pending = Trace.arrived (d.read room).call ++ (d.read room).device.pending := by
  obtain ⟨clock, reads, writes, timeouts⟩ := d
  match reads with
  | [] => rfl
  | ⟨advance, .error e⟩ :: rest => rfl
  | ⟨advance, .ok bytes⟩ :: rest =>
    simp [pending, read, Trace.arrived, bytes_leftover, ReadStep.bytes, ← List.append_assoc]

/-- Setting the timeout does not touch the answers to reads. -/
@[simp] theorem setTimeout_reads (timeout : Nat) (d : Device) :
    (d.setTimeout timeout).device.reads = d.reads := by
  rw [setTimeout]
  split <;> rfl

/-- Setting the timeout leaves the stream alone. -/
@[simp] theorem setTimeout_pending (timeout : Nat) (d : Device) :
    (d.setTimeout timeout).device.pending = d.pending := by
  rw [pending, setTimeout_reads, pending]

/-- Setting the timeout does not touch the answers to writes. -/
@[simp] theorem setTimeout_writes (timeout : Nat) (d : Device) :
    (d.setTimeout timeout).device.writes = d.writes := by
  rw [setTimeout]
  split <;> rfl

/-- Reading does not touch the answers to writes. -/
@[simp] theorem read_writes (room : Nat) (d : Device) :
    (d.read room).device.writes = d.writes := by
  rw [read]
  split <;> rfl

/-- Reading does not touch the answers to calls that set the timeout. -/
@[simp] theorem read_timeouts (room : Nat) (d : Device) :
    (d.read room).device.timeouts = d.timeouts := by
  rw [read]
  split <;> rfl

/-- Writing does not touch the answers to reads. -/
@[simp] theorem write_reads (frame : List UInt8) (d : Device) :
    (d.write frame).device.reads = d.reads := by
  rw [write]
  split <;> rfl

/-- Writing does not touch the answers to calls that set the timeout. -/
@[simp] theorem write_timeouts (frame : List UInt8) (d : Device) :
    (d.write frame).device.timeouts = d.timeouts := by
  rw [write]
  split <;> rfl

/-! ## What a call records -/

section Record

variable (room timeout : Nat) (d : Device)

/-- A read asks for as many bytes as there is room for. -/
@[simp] theorem read_asked : (d.read room).call.asked = room := by
  rw [read]
  split <;> rfl

/-- The clock moves by the time that a read takes. -/
@[simp] theorem read_clock : (d.read room).device.clock = d.clock + (d.read room).call.took := by
  rw [read]
  split <;> rfl

/-- A write offers the bytes that it is given. -/
@[simp] theorem write_asked (frame : List UInt8) : (d.write frame).call.asked = frame := by
  rw [write]
  split <;> rfl

/-- Setting the timeout begins at the present time. -/
@[simp] theorem setTimeout_start : (d.setTimeout timeout).call.start = d.clock := by
  rw [setTimeout]
  split <;> rfl

/-- The timeout asked for is the one that is given. -/
@[simp] theorem setTimeout_asked : (d.setTimeout timeout).call.asked = timeout := by
  rw [setTimeout]
  split <;> rfl

/-- The clock moves by the time that setting the timeout takes. -/
@[simp] theorem setTimeout_clock :
    (d.setTimeout timeout).device.clock = d.clock + (d.setTimeout timeout).call.took := by
  rw [setTimeout]
  split <;> rfl

end Record

/-! ## Progress -/

/-- A read never brings more than there is room for. -/
theorem length_arrived_le (room : Nat) (d : Device) :
    (Trace.arrived (d.read room).call).length ≤ room := by
  obtain ⟨clock, reads, writes, timeouts⟩ := d
  match reads with
  | [] => exact Nat.zero_le _
  | ⟨advance, .error e⟩ :: rest => exact Nat.zero_le _
  | ⟨advance, .ok bytes⟩ :: rest => exact List.length_take_le room bytes

/-- The bytes that a read brings fit in the room there is. -/
theorem length_le_of_read {room : Nat} {d : Device} {bytes : List UInt8}
    (h : (d.read room).call.answer = .ok bytes) : bytes.length ≤ room := by
  have hle := length_arrived_le room d
  rw [Trace.arrived, h] at hle
  exact hle

/-- A read other than a timeout uses up an answer or fills all the room there is. -/
theorem read_progress {room : Nat} {d : Device} {bytes : List UInt8}
    (h : (d.read room).call.answer = .ok bytes) :
    (d.read room).device.reads.length < d.reads.length ∨
      (bytes.length = room ∧ (d.read room).device.reads.length = d.reads.length) := by
  obtain ⟨clock, reads, writes, timeouts⟩ := d
  match reads with
  | [] => simp [read] at h
  | ⟨advance, .error e⟩ :: rest => simp [read] at h
  | ⟨advance, .ok offered⟩ :: rest =>
    simp only [read, Except.ok.injEq] at h
    subst h
    simp only [read, ReadStep.leftover]
    split
    · left; simp
    · next hne =>
      right
      have hlt : room < offered.length := by
        rcases Nat.lt_or_ge room offered.length with hlt | hge
        · exact hlt
        · exact absurd (List.drop_eq_nil_iff.2 hge) hne
      simp [List.length_take, Nat.min_eq_left (Nat.le_of_lt hlt)]

/-- A read that fails with anything but a timeout uses up an answer. -/
theorem reads_length_lt_of_error {room : Nat} {d : Device} {e : IoError}
    (h : (d.read room).call.answer = .error e) (hkind : e.kind ≠ .timedOut) :
    (d.read room).device.reads.length < d.reads.length := by
  obtain ⟨clock, reads, writes, timeouts⟩ := d
  match reads with
  | [] =>
    simp only [read, Except.error.injEq] at h
    exact absurd (by rw [← h]; rfl) hkind
  | ⟨advance, .error e⟩ :: rest => simp [read]
  | ⟨advance, .ok offered⟩ :: rest => simp [read] at h

/-- A write never adds an answer. -/
theorem writes_length_le (frame : List UInt8) (d : Device) :
    (d.write frame).device.writes.length ≤ d.writes.length := by
  obtain ⟨clock, reads, writes, timeouts⟩ := d
  match writes with
  | [] => exact Nat.le_refl _
  | _ :: rest => simp [write]

/-- A write that fails uses up an answer. -/
theorem writes_length_lt_of_error {frame : List UInt8} {d : Device} {e : IoError}
    (h : (d.write frame).call.answer = .error e) :
    (d.write frame).device.writes.length < d.writes.length := by
  obtain ⟨clock, reads, writes, timeouts⟩ := d
  match writes with
  | [] => simp [write] at h
  | _ :: rest => simp [write]

/-! ## Supplies -/

/-- What may happen to a device while nobody calls it: time passes and answers are added. -/
structure Supply where
  advance : Nat
  reads : List ReadStep
  writes : List WriteStep
  timeouts : List TimeoutStep

/-- A device with a supply: time has passed, and new answers come after the ones it had. -/
def feed (s : Supply) (d : Device) : Device :=
  ⟨d.clock + s.advance, d.reads ++ s.reads, d.writes ++ s.writes, d.timeouts ++ s.timeouts⟩

/-- A supply adds its bytes to the end of the stream. -/
theorem pending_feed (s : Supply) (d : Device) :
    (d.feed s).pending = d.pending ++ s.reads.flatMap ReadStep.bytes :=
  List.flatMap_append

end Device

end VersionProbe
