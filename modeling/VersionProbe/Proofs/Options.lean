/-
# The options of a query

A query can be asked to decode the reply and to show what it decodes as JSON.  Neither of this can
disturb the query itself: with the same device, runs with any of the options make the same calls and
end with the same exit code, and print the same bytes.  The options add what was decoded to the
standard output, or the reason why nothing was to the standard error.

* `contacts_probe`, `exitCode_probe` : what does not depend on the options.
* `stdout_probe`, `stderr_probe` : what the options add.
-/
import VersionProbe.Proofs.Course
import VersionProbe.Proofs.JsonText

namespace VersionProbe.Run

/-! ## What is shown of a reply -/

/-- Showing a reply reaches nothing beyond the program's own output. -/
theorem contacts_shown (decode json : Bool) (r : Reply) :
    Trace.contacts (shown decode json r) = [] := by
  cases decode with
  | false => rfl
  | true =>
    show Trace.contacts (showDecoded json r) = []
    unfold showDecoded
    split
    · rfl
    · rfl

/-- What is decoded is printed. -/
theorem shown_of_version {r : Reply} {v : LocalVersion} (h : LocalVersion.decode r.bytes = .ok v)
    (json : Bool) :
    shown true json r = [.print ((if json then v.toJson.pretty else v.display) ++ "\n")] := by
  show showDecoded json r = _
  rw [showDecoded, h]

/-- Of a reply that is not decoded, the reason is reported. -/
theorem shown_of_fault {r : Reply} {e : ProbeError} (h : LocalVersion.decode r.bytes = .error e)
    (json : Bool) : shown true json r = [.complain ("decode: " ++ e.message ++ "\n")] := by
  show showDecoded json r = _
  rw [showDecoded, h]

/-! ## Queries with options -/

section Probe

variable {device : String} {opening : Except SerialError Device} (decode json : Bool)

/-- The options do not change the calls that a query makes. -/
theorem contacts_probe :
    Trace.contacts (probe device decode json opening).trace
      = Trace.contacts (probe device false false opening).trace := by
  rcases probe_cases device opening with ⟨t, -, -, hrun⟩ | ⟨r, t, -, -, hrun⟩
  · rw [hrun, hrun]
  · rw [hrun, hrun, Trace.contacts_append, Trace.contacts_append, contacts_shown, contacts_shown]

/-- The options do not change the exit code of a query. -/
theorem exitCode_probe :
    (probe device decode json opening).exitCode = (probe device false false opening).exitCode := by
  rcases probe_cases device opening with ⟨t, -, -, hrun⟩ | ⟨r, t, -, -, hrun⟩
  · rw [hrun, hrun]
  · rw [hrun, hrun]

/-- A query without a reply fails and prints nothing. -/
theorem probe_of_no_reply (h : ∀ r, ¬ Gets device opening r) :
    (probe device decode json opening).exitCode = 1 ∧
      (probe device decode json opening).stdout = "" := by
  rcases probe_cases device opening with ⟨t, -, hquiet, hrun⟩ | ⟨r, t, hgets, -, -⟩
  · rw [hrun]
    exact ⟨rfl, hquiet⟩
  · exact absurd hgets (h r)

variable {r : Reply} (h : Gets device opening r)

include h

/-- A query with a reply succeeds. -/
theorem exitCode_of_gets : (probe device decode json opening).exitCode = 0 := by
  rcases probe_cases device opening with ⟨t, hnone, -, -⟩ | ⟨r', t, -, -, hrun⟩
  · exact absurd h (hnone r)
  · rw [hrun]

/-- A query with a reply prints its bytes, and then what is shown besides. -/
theorem stdout_probe :
    (probe device decode json opening).stdout
      = r.line ++ "\n" ++ Trace.stdout (shown decode json r) := by
  rcases probe_cases device opening with ⟨t, hnone, -, -⟩ | ⟨r', t, hgets, hprinted, hrun⟩
  · exact absurd h (hnone r)
  · obtain rfl := h.unique hgets
    rw [hrun, stdout, Trace.stdout_append, hprinted]

/-- What is shown of a reply besides its bytes comes last on the standard error. -/
theorem stderr_probe (filter : LogFilter) :
    (probe device decode json opening).stderr filter
      = (probe device false false opening).stderr filter
        ++ String.join ((shown decode json r).map (stderrText filter)) := by
  rcases probe_cases device opening with ⟨t, hnone, -, -⟩ | ⟨r', t, hgets, -, hrun⟩
  · exact absurd h (hnone r)
  · obtain rfl := h.unique hgets
    rw [hrun, hrun, stderr, stderr, List.map_append, String.join_append]
    show _ = String.join ((t ++ []).map (stderrText filter)) ++ _
    rw [List.append_nil]

end Probe

/-! ## Runs -/

/-- Arguments that ask for a query run it, with the options that they give. -/
theorem ofArguments_of_asks {device : String} (hdevice : device.toList.head? ≠ some '-')
    {decode json : Bool} {arguments : List String}
    (hasks : AsksToProbe device decode json arguments) (world : World) :
    ofArguments arguments world = probe device decode json world.opening := by
  rw [ofArguments, Request.ofArguments_of_asks hdevice hasks]
  rfl

/-- `SameCalls s t` says that in two runs the same ports were opened with the same settings, and the
same calls were made on them, with the same answers. -/
structure SameCalls (s t : Trace) : Prop where
  openings : Trace.openings s = Trace.openings t
  writes : Trace.writes s = Trace.writes t
  timeouts : Trace.timeouts s = Trace.timeouts t
  reads : Trace.reads s = Trace.reads t

/-- Runs that have the same contacts make the same calls. -/
theorem SameCalls.of_contacts {s t : Trace} (h : Trace.contacts s = Trace.contacts t) :
    SameCalls s t where
  openings := by rw [← Trace.openings_contacts s, h, Trace.openings_contacts]
  writes := by rw [← Trace.writes_contacts s, h, Trace.writes_contacts]
  timeouts := by rw [← Trace.timeouts_contacts s, h, Trace.timeouts_contacts]
  reads := by rw [← Trace.reads_contacts s, h, Trace.reads_contacts]

/-- **The options never disturb the query.**  Whatever the device does, and in whatever order a
device and options are given, the run makes the same calls on the world, with the same answers, and
ends with the same exit code as the run without options.  The run fails, and prints nothing, if the
port is not opened or the exchange fails.  Otherwise it succeeds and prints the bytes of the reply,
a blank and two digits for each; nothing follows them unless decoding is asked for.  Then what was
decoded follows, as JSON, with the numbers in decimal line by line and the vendor after them, or as
a summary of three lines, with the numbers in hexadecimal; or, if the reply cannot be decoded,
nothing follows, and the last line on the standard error says why. -/
theorem options_never_disturb {device : String} (hdevice : device.toList.head? ≠ some '-')
    {decode json : Bool} {arguments : List String}
    (hasks : AsksToProbe device decode json arguments) (world : World) :
    let run := ofArguments arguments world
    let plain := ofArguments [device] world
    Trace.contacts run.trace = Trace.contacts plain.trace ∧
      SameCalls run.trace plain.trace ∧
      run.exitCode = plain.exitCode ∧
      ((∀ r, ¬ Gets device world.opening r) → run.exitCode = 1 ∧ run.stdout = "") ∧
      ∀ r, Gets device world.opening r →
        run.exitCode = 0 ∧
        r.line.toList = r.bytes.flatMap
          (fun b => [' ', Nat.digitChar (b.toNat / 16), Nat.digitChar (b.toNat % 16)]) ∧
        (decode = false → run.stdout = r.line ++ "\n") ∧
        (∀ v, decode = true → LocalVersion.decode r.bytes = .ok v →
          run.stdout
              = r.line ++ "\n" ++ ((if json then v.toJson.pretty else v.display) ++ "\n") ∧
            (json = false → Text.ConsistsOf run.stdout (r.line :: v.summaryLines)) ∧
            (json = true → Text.ConsistsOf run.stdout (r.line :: v.jsonLines))) ∧
        (∀ e, decode = true → LocalVersion.decode r.bytes = .error e →
          run.stdout = r.line ++ "\n" ∧ Text.IsLine e.message ∧
            ∀ filter, run.stderr filter
              = plain.stderr filter ++ ("decode: " ++ e.message ++ "\n")) := by
  intro run plain
  have hrun : run = probe device decode json world.opening :=
    ofArguments_of_asks hdevice hasks world
  have hplain : plain = probe device false false world.opening :=
    ofArguments_of_asks hdevice (asksToProbe_alone device) world
  rw [hrun, hplain]
  have hcontacts := @contacts_probe device world.opening decode json
  refine ⟨hcontacts, .of_contacts hcontacts, exitCode_probe decode json,
    probe_of_no_reply decode json, ?_⟩
  intro r hgets
  rw [stdout_probe decode json hgets]
  refine ⟨exitCode_of_gets decode json hgets, Hex.toList_line r.bytes, ?_, ?_, ?_⟩
  · rintro rfl
    exact String.append_empty
  · rintro v rfl hversion
    have hshown : Trace.stdout (shown true json r)
        = (if json then v.toJson.pretty else v.display) ++ "\n" := by
      rw [shown_of_version hversion]
      exact String.empty_append
    rw [hshown]
    refine ⟨rfl, ?_, ?_⟩
    · rintro rfl
      exact (LocalVersion.consistsOf_summary v).cons (Hex.isLine_line r.bytes)
    · rintro rfl
      exact (LocalVersion.consistsOf_pretty v).cons (Hex.isLine_line r.bytes)
  · rintro e rfl hfault
    have hline : Text.IsLine e.message := LocalVersion.isLine_message_of_decode hfault
    refine ⟨?_, hline, ?_⟩
    · rw [shown_of_fault hfault]
      exact String.append_empty
    · intro filter
      rw [stderr_probe true json hgets, shown_of_fault hfault, List.map_singleton, String.join_cons,
        String.join_nil, String.append_empty]
      rfl

/-- A machine with one port, over which everything is answered with the same bytes. -/
def answeringWith (reply : List UInt8) : World :=
  ⟨.ok ⟨0, [⟨0, .ok reply⟩], [], []⟩, ⟨.ok [], some []⟩⟩

/-- With both options, before and after the device, a version is added to the output as JSON, and
without the one for JSON as a summary; of a reply that is cut off only the reason why it has no
version is added, and not to the output. -/
theorem options_answeringWith :
    (ofArguments ["--json", "COM3", "--decode"] (answeringWith LocalVersion.sampleReply)).stdout
        = String.join ([" 04 0e 0c 01 01 10 00 06 02 01 06 0d 00 22 01", "\x7b",
            "  \"hci_version\": 6,", "  \"hci_revision\": 258,", "  \"lmp_version\": 6,",
            "  \"manufacturer_id\": 13,", "  \"lmp_subversion\": 290,",
            "  \"vendor\": \"TexasInstruments\"", "\x7d"].map (· ++ "\n")) ∧
      (ofArguments ["COM3", "--decode"] (answeringWith LocalVersion.sampleReply)).stdout
        = String.join ([" 04 0e 0c 01 01 10 00 06 02 01 06 0d 00 22 01",
            "HCI version:     0x06 rev 0x0102", "LMP version:     0x06 sub 0x0122",
            "Manufacturer id: 0x000d (Texas Instruments)"].map (· ++ "\n")) ∧
      (ofArguments ["--json", "COM3", "--decode"] (answeringWith [0x04])).stdout = " 04\n" ∧
      ∀ filter, (ofArguments ["--json", "COM3", "--decode"] (answeringWith [0x04])).stderr filter
        = (ofArguments ["COM3"] (answeringWith [0x04])).stderr filter
          ++ "decode: Invalid response from controller: truncated event header\n" := by
  have hboth : AsksToProbe "COM3" true true ["--json", "COM3", "--decode"] :=
    ⟨[.json], [.decode], rfl, by decide, by decide, by decide, by decide⟩
  have hdecode : AsksToProbe "COM3" true false ["COM3", "--decode"] :=
    ⟨[], [.decode], rfl, by decide, by decide, by decide, by decide⟩
  have hwhole : Gets "COM3" (answeringWith LocalVersion.sampleReply).opening
      ⟨LocalVersion.sampleReply⟩ := by
    refine .of_opened (by decide) ?_
    cbv
  have hcut : Gets "COM3" (answeringWith [0x04]).opening ⟨[0x04]⟩ := by
    refine .of_opened (by decide) ?_
    cbv
  have hcarries : LocalVersion.decode LocalVersion.sampleReply
      = .ok ⟨0x06, 0x0102, 0x06, 0x000D, 0x0122⟩ := by
    refine LocalVersion.decode_eq_ok_iff.2 ?_
    constructor <;> decide
  obtain ⟨-, -, -, -, hshown⟩ := options_never_disturb (by decide) hboth
    (answeringWith LocalVersion.sampleReply)
  obtain ⟨-, -, -, -, hshown'⟩ := options_never_disturb (by decide) hdecode
    (answeringWith LocalVersion.sampleReply)
  obtain ⟨-, -, -, -, hshown''⟩ := options_never_disturb (by decide) hboth (answeringWith [0x04])
  obtain ⟨-, -, -, hversion, -⟩ := hshown _ hwhole
  obtain ⟨-, -, -, hversion', -⟩ := hshown' _ hwhole
  obtain ⟨-, -, -, -, hfault⟩ := hshown'' _ hcut
  obtain ⟨-, -, hjson⟩ := hversion _ rfl hcarries
  obtain ⟨-, hsummary, -⟩ := hversion' _ rfl hcarries
  obtain ⟨hprinted, -, hreported⟩ := hfault (.invalidReply .truncatedHeader) rfl rfl
  have hreason : "decode: " ++ (ProbeError.invalidReply .truncatedHeader).message ++ "\n"
      = "decode: Invalid response from controller: truncated event header\n" := by decide
  refine ⟨(hjson rfl).1, (hsummary rfl).1, hprinted, ?_⟩
  intro filter
  rw [hreported, hreason]

end VersionProbe.Run
