/-
# What a query prints

A query without options, from the name of a device to the line on the standard output.  If the port
is opened, the query is written to it, in whatever pieces, and the reply is the beginning of the
stream that the device delivers in time, in whatever pieces.  It is printed on one line.

* `contacts_probe_of_opened` : beyond its own output, a query opens its port and then does what the
  exchange does.
* `query_prints_reply` : the whole run.
-/
import VersionProbe.Proofs.Options
import VersionProbe.Proofs.Query

namespace VersionProbe.Run

/-! ## What a query does beyond its own output -/

/-- The settings with which a query opens its port: 115200 baud, eight data bits, no parity, one
stop bit, no flow control, and a second for each call. -/
def usualSettings (device : String) : LineSettings :=
  { port := device
    baud := 115200
    dataBits := .eight
    parity := .none
    stopBits := .one
    flowControl := .none
    timeout := 1000 * 1000 }

/-- The settings of the usual configuration. -/
theorem lineSettings_forPort (device : String) :
    (Config.forPort device).lineSettings = usualSettings device :=
  rfl

section Opened

variable {device : String} (hnamed : device ≠ "") (decode json : Bool) (port : Device)

include hnamed

/-- Over a port that is opened, a query opens it and then does what the exchange does. -/
theorem contacts_probe_of_opened :
    Trace.contacts (probe device decode json (.ok port)).trace
      = .opening (usualSettings device) ::
        Trace.contacts
          ((Connection.ofDevice (.forPort device) port).exchange requestFrame).trace := by
  have hport : (Config.forPort device).port ≠ "" := hnamed
  have hacquire := Connection.acquire_of_opened hport port
  rw [contacts_probe]
  cases hresult : ((Connection.ofDevice (.forPort device) port).exchange requestFrame).result with
  | error e =>
    rw [probe_of_failed hacquire hresult, lineSettings_forPort, Trace.contacts_append,
      Trace.contacts_append, Trace.contacts_append]
    show [_] ++ _ ++ [] ++ [] = _
    rw [List.append_nil, List.append_nil, List.singleton_append]
  | ok r =>
    rw [probe_of_reply hacquire hresult, lineSettings_forPort, Trace.contacts_append,
      Trace.contacts_append, Trace.contacts_append, Trace.contacts_append]
    show [_] ++ _ ++ [] ++ [] ++ [] = _
    rw [List.append_nil, List.append_nil, List.append_nil, List.singleton_append]

/-- A port that is opened is opened once. -/
theorem openings_probe_of_opened :
    Trace.openings (probe device decode json (.ok port)).trace = [usualSettings device] := by
  have hnone : Trace.openings
      ((Connection.ofDevice (.forPort device) port).exchange requestFrame).trace = [] :=
    Trace.openings_of_transfers (Connection.exchange_transfers _ _)
  rw [← Trace.openings_contacts, contacts_probe_of_opened hnamed]
  show _ :: Trace.openings (Trace.contacts _) = _
  rw [Trace.openings_contacts, hnone]

/-- A query writes what its exchange writes. -/
theorem written_probe_of_opened :
    Trace.written (probe device decode json (.ok port)).trace
      = Trace.written
          ((Connection.ofDevice (.forPort device) port).exchange requestFrame).trace := by
  rw [← Trace.written_contacts, contacts_probe_of_opened hnamed]
  exact Trace.written_contacts _

end Opened

/-- The bytes of a reply are printed with a blank and two digits for each byte. -/
theorem toList_line_append (bytes : List UInt8) :
    (Hex.line bytes ++ "\n").toList
      = bytes.flatMap (fun b => [' ', Nat.digitChar (b.toNat / 16), Nat.digitChar (b.toNat % 16)])
        ++ ['\n'] := by
  rw [String.toList_append, Hex.toList_line]
  rfl

/-! ## The whole run -/

/-- **What a query prints.**  Let a port of some name be opened, over which writes get on and
timeouts are accepted at once, and which delivers a stream within a second, in whatever chunks and
with whatever interruptions, and then ends it or times out.  The run that is given the name alone
opens this port, once, at 115200 baud with eight data bits, no parity, one stop bit, no flow control
and a second for each call, and writes the four bytes of the query to it, in whatever pieces.  It
succeeds, and prints one line: for each of the first 32 bytes of the stream, or for all bytes of a
shorter one, a blank and the two digits of the byte, in lower case. -/
theorem query_prints_reply {device : String} (hnamed : device ≠ "")
    (hdevice : device.toList.head? ≠ some '-') {world : World} {port : Device}
    (hopening : world.opening = .ok port) (hwrites : ∀ step ∈ port.writes, step.GetsOn)
    (haccepting : port.Accepting) {stream : List UInt8}
    (hreads : ReadStep.Delivers port.reads stream)
    (htime : ReadStep.deliveryTime port.reads < 1000 * 1000) :
    let run := ofArguments [device] world
    let reply := stream.take (min 32 stream.length)
    Trace.openings run.trace
        = [{ port := device, baud := 115200, dataBits := .eight, parity := .none, stopBits := .one,
             flowControl := .none, timeout := 1000 * 1000 }] ∧
      Trace.written run.trace = [0x01, 0x01, 0x10, 0x00] ∧
      run.exitCode = 0 ∧
      run.stdout.toList
        = reply.flatMap (fun b => [' ', Nat.digitChar (b.toNat / 16), Nat.digitChar (b.toNat % 16)])
          ++ ['\n'] ∧
      Text.ConsistsOf run.stdout [Hex.line reply] ∧
      ∀ c ∈ (Hex.line reply).toList, c = ' ' ∨ c ∈ Hex.lowerDigits := by
  intro run reply
  have hrun : run = probe device false false (.ok port) := by
    rw [← hopening]
    exact ofArguments_of_asks hdevice (asksToProbe_alone device) world
  have hresult : ((Connection.ofDevice (.forPort device) port).exchange requestFrame).result
      = .ok ⟨stream.take 32⟩ :=
    Connection.exchange_result_of_inTime haccepting htime hwrites hreads requestFrame
  have hgets : Gets device (.ok port) ⟨reply⟩ := by
    refine .of_opened hnamed ?_
    rw [hresult, List.take_eq_take_min]
  -- The query is written as a whole, since every write gets on.
  have hwritten : Trace.written
      ((Connection.ofDevice (.forPort device) port).exchange requestFrame).trace
        = requestFrame := by
    have hwriting := port.writeAll_writing requestFrame
    rw [Connection.written_exchange, Connection.written_send]
    exact hwriting.result_eq_ok_iff.1 (hwriting.result_of_getsOn hwrites)
  have hprinted : run.stdout = Hex.line reply ++ "\n" := by
    rw [hrun, stdout_probe false false hgets]
    exact String.append_empty
  refine ⟨?_, ?_, ?_, ?_, ?_, ?_⟩
  · rw [hrun, openings_probe_of_opened hnamed, usualSettings]
  · rw [hrun, written_probe_of_opened hnamed, hwritten, requestFrame_eq]
  · rw [hrun, exitCode_of_gets false false hgets]
  · rw [hprinted, toList_line_append]
  · rw [hprinted]
    exact Text.consistsOf_singleton (Hex.isLine_line reply)
  · intro c hc
    rw [Hex.line, String.toList_ofList] at hc
    exact Hex.mem_lineChars hc

/-- A device that takes the query in two pieces, with an interruption between them, and delivers 34
bytes in a millionth of a second less than a second. -/
def hesitant : Device :=
  ⟨40, [⟨100000, .error (.ofKind .interrupted)⟩, ⟨200000, .ok [0x04, 0x0E]⟩,
      ⟨699999, .ok (List.replicate 32 0xA5)⟩, ⟨500000, .error .timedOut⟩],
    [⟨3000, .ok (some 1)⟩, ⟨0, .error (.ofKind .interrupted)⟩], [⟨0, .ok ()⟩]⟩

/-- The writes get on, the timeouts are accepted at once, and the bytes are delivered. -/
theorem hesitant_delivers :
    (∀ step ∈ hesitant.writes, step.GetsOn) ∧ hesitant.Accepting ∧
      ReadStep.Delivers hesitant.reads ([0x04, 0x0E] ++ List.replicate 32 0xA5) := by
  refine ⟨?_, ?_, ?_⟩
  · simp [hesitant, WriteStep.GetsOn, IoError.ofKind]
  · simp [hesitant, Device.Accepting]
  · have hend : ReadStep.Delivers [⟨500000, .error .timedOut⟩] [] := .timedOut 500000 rfl []
    have hlater : ReadStep.Delivers
        [⟨699999, .ok (List.replicate 32 0xA5)⟩, ⟨500000, .error .timedOut⟩]
        (List.replicate 32 0xA5 ++ []) := .chunk 699999 (by decide) hend
    exact .interrupted 100000 rfl (.chunk 200000 (by decide) hlater)

/-- The port of that name is opened, once, and of the 34 bytes 32 are printed. -/
theorem prints_hesitant :
    let run := ofArguments ["/dev/ttyACM0"] ⟨.ok hesitant, .ok [], none⟩
    Trace.openings run.trace
        = [⟨"/dev/ttyACM0", 115200, .eight, .none, .one, .none, 1000000⟩] ∧
      Trace.written run.trace = [0x01, 0x01, 0x10, 0x00] ∧ run.exitCode = 0 ∧
      run.stdout = " 04 0e" ++ String.join (List.replicate 30 " a5") ++ "\n" := by
  obtain ⟨hwrites, haccepting, hreads⟩ := hesitant_delivers
  obtain ⟨hopened, hwritten, hcode, hchars, -, -⟩ :=
    @query_prints_reply "/dev/ttyACM0" (by decide) (by decide) ⟨.ok hesitant, .ok [], none⟩ hesitant
      rfl hwrites haccepting _ hreads (by decide)
  refine ⟨hopened, hwritten, hcode, ?_⟩
  rw [← String.toList_inj, hchars]
  decide

end VersionProbe.Run
