/-
# Events

The packets with which a controller answers.  An event packet is an indicator, an event code, the
number of its parameter bytes, and the parameters; whatever follows them is not part of it.

`Event.parse` reads a packet and `Event.encode` writes one:

* `parse_encode_append` : a written event reads back, whatever follows it.
-/
import VersionProbe.Command
import VersionProbe.ProbeError

namespace VersionProbe

/-- The code of the event that reports the result of a command. -/
def commandCompleteCode : UInt8 := 0x0E

/-- The code of the event that puts a command off or refuses it. -/
def commandStatusCode : UInt8 := 0x0F

/-- An event, with its parameters taken apart as far as the probe understands them. -/
inductive Event
  /-- A command was carried out: how many more the controller takes, which command it was, its
  status, and what it returned. -/
  | commandComplete (packets : UInt8) (opcode : UInt16) (status : UInt8)
      (returnParams : List UInt8)
  /-- A command was accepted for later or refused. -/
  | commandStatus (status packets : UInt8) (opcode : UInt16)
  /-- Any other event. -/
  | other (code : UInt8) (params : List UInt8)
deriving DecidableEq

namespace Event

/-! ## Reading -/

/-- The event that a code and its parameters stand for.  Parameters of a Command Status past the
fourth mean nothing. -/
def ofParams (code : UInt8) (params : List UInt8) : Except ProbeError Event :=
  if code = commandCompleteCode then
    match params with
    | packets :: low :: high :: status :: returnParams =>
      .ok (.commandComplete packets (LittleEndian.word low high) status returnParams)
    | _ => .error (.invalidReply .shortCommandComplete)
  else if code = commandStatusCode then
    match params with
    | status :: packets :: low :: high :: _ =>
      .ok (.commandStatus status packets (LittleEndian.word low high))
    | _ => .error (.invalidReply .shortCommandStatus)
  else
    .ok (.other code params)

/-- The event that a packet begins with; bytes past the declared length are left alone. -/
def parse : List UInt8 → Except ProbeError Event
  | [] => .error (.invalidReply .emptyReply)
  | indicator :: rest =>
    if indicator = eventIndicator then
      match rest with
      | code :: declared :: body =>
        if body.length < declared.toNat then
          .error (.invalidReply (.truncatedParameters declared.toNat body.length))
        else
          ofParams code (body.take declared.toNat)
      | _ => .error (.invalidReply .truncatedHeader)
    else
      .error (.invalidReply (.notAnEvent indicator))

/-! ## Writing -/

/-- The code that an event is sent under. -/
def code : Event → UInt8
  | commandComplete _ _ _ _ => commandCompleteCode
  | commandStatus _ _ _ => commandStatusCode
  | other code _ => code

/-- The parameter bytes of an event. -/
def params : Event → List UInt8
  | commandComplete packets opcode status returnParams =>
    packets :: LittleEndian.low opcode :: LittleEndian.high opcode :: status :: returnParams
  | commandStatus status packets opcode =>
    [status, packets, LittleEndian.low opcode, LittleEndian.high opcode]
  | other _ params => params

/-- The packet of an event. -/
def encode (e : Event) : List UInt8 :=
  eventIndicator :: e.code :: UInt8.ofNat e.params.length :: e.params

/-- Whether an event has a packet of its own: its parameters fit the one-byte length, and an event
that is not taken apart bears neither of the two codes that are. -/
def Fits : Event → Prop
  | other code params =>
    params.length ≤ 255 ∧ code ≠ commandCompleteCode ∧ code ≠ commandStatusCode
  | e => e.params.length ≤ 255

/-- The parameters of an event that fits are read back as that event. -/
theorem ofParams_code_params {e : Event} (h : e.Fits) : ofParams e.code e.params = .ok e := by
  cases e with
  | commandComplete packets opcode status returnParams =>
    simp [ofParams, code, params, LittleEndian.word_low_high]
  | commandStatus status packets opcode =>
    simp [ofParams, code, params, LittleEndian.word_low_high, commandCompleteCode,
      commandStatusCode]
  | other code params => simp [ofParams, Event.code, Event.params, h.2.1, h.2.2]

/-- An event that fits has at most 255 parameter bytes. -/
theorem length_params_le {e : Event} (h : e.Fits) : e.params.length ≤ 255 := by
  cases e with
  | commandComplete packets opcode status returnParams => exact h
  | commandStatus status packets opcode => exact h
  | other code params => exact h.1

/-- A written event reads back, whatever follows it. -/
theorem parse_encode_append {e : Event} (h : e.Fits) (rest : List UInt8) :
    parse (e.encode ++ rest) = .ok e := by
  have hlen : (UInt8.ofNat e.params.length).toNat = e.params.length := by
    have := length_params_le h
    rw [UInt8.toNat_ofNat']
    omega
  simp [encode, parse, hlen, ofParams_code_params h]

end Event

end VersionProbe
