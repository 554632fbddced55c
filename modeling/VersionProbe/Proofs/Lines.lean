/-
# Lines of text

What the program prints is made of lines.  A text is on one line if there is no line end in it, and
everything that is shown of a reply is: its bytes in hexadecimal, the three parts of a version
summary, and the reason why it could not be decoded.

* `ConsistsOf` : a text is nothing but some lines, each followed by a line end.
* `lines` : the lines into which the line ends divide any text.
* `isLine_message_of_decode` : the reason why a reply is not decoded is on one line.
* `consistsOf_summary` : the three lines of a version summary.
-/
import VersionProbe.Proofs.VersionReply

namespace VersionProbe

/-! ## Lines -/

/-- Whether a text is on one line. -/
def Text.IsLine (text : String) : Prop :=
  '\n' ∉ text.toList

instance : DecidablePred Text.IsLine := fun text =>
  inferInstanceAs (Decidable ('\n' ∉ text.toList))

/-- `ConsistsOf text lines` says that a text is nothing but these lines, each of them on one line
and followed by a line end. -/
def Text.ConsistsOf (text : String) (lines : List String) : Prop :=
  text = String.join (lines.map (· ++ "\n")) ∧ ∀ line ∈ lines, IsLine line

namespace Text

/-- A character is missing from two texts together exactly if it is missing from both. -/
theorem not_mem_append_iff {c : Char} {s t : String} :
    c ∉ (s ++ t).toList ↔ c ∉ s.toList ∧ c ∉ t.toList := by
  rw [String.toList_append, List.mem_append, not_or]

/-- Two texts together are on one line exactly if both are. -/
theorem isLine_append_iff {s t : String} : IsLine (s ++ t) ↔ IsLine s ∧ IsLine t :=
  not_mem_append_iff

/-- Two texts that are on one line are so together. -/
theorem IsLine.append {s t : String} (hs : IsLine s) (ht : IsLine t) : IsLine (s ++ t) :=
  isLine_append_iff.2 ⟨hs, ht⟩

/-- A text of characters other than the line end is on one line. -/
theorem isLine_ofList {chars : List Char} (h : ∀ c ∈ chars, c ≠ '\n') :
    IsLine (String.ofList chars) := by
  unfold IsLine
  rw [String.toList_ofList]
  exact fun hmem => h '\n' hmem rfl

/-- One line with its line end consists of that line. -/
theorem consistsOf_singleton {line : String} (h : IsLine line) :
    ConsistsOf (line ++ "\n") [line] := by
  constructor
  · rw [List.map_singleton, String.join_cons, String.join_nil, String.append_empty]
  · intro other hother
    rwa [List.mem_singleton.1 hother]

/-- Lines in front of a text that consists of lines. -/
theorem ConsistsOf.cons {line text : String} {lines : List String} (h : IsLine line)
    (htext : ConsistsOf text lines) : ConsistsOf (line ++ "\n" ++ text) (line :: lines) := by
  constructor
  · rw [List.map_cons, String.join_cons, ← htext.1]
  · exact List.forall_mem_cons.2 ⟨h, htext.2⟩

/-! ## Division into lines -/

/-- The lines of some characters: what stands before each line end, and what follows the last one if
anything does. -/
def linesOf : List Char → List (List Char)
  | [] => []
  | c :: rest =>
    if c = '\n' then [] :: linesOf rest
    else
      match linesOf rest with
      | [] => [[c]]
      | line :: later => (c :: line) :: later

/-- The lines of a text. -/
def lines (text : String) : List String :=
  (linesOf text.toList).map String.ofList

/-- A line end is followed by another line. -/
theorem linesOf_end (rest : List Char) : linesOf ('\n' :: rest) = [] :: linesOf rest :=
  if_pos rfl

/-- Any other character belongs to the line that it is followed by. -/
theorem linesOf_cons {c : Char} (hc : c ≠ '\n') {rest line : List Char} {later : List (List Char)}
    (h : linesOf rest = line :: later) : linesOf (c :: rest) = (c :: line) :: later := by
  rw [linesOf, if_neg hc, h]

/-- A character that is followed by nothing is a line. -/
theorem linesOf_singleton {c : Char} (hc : c ≠ '\n') : linesOf [c] = [[c]] := by
  rw [linesOf, if_neg hc]
  rfl

/-- What stands before the first line end is the first line. -/
theorem linesOf_append_end {line : List Char} (h : '\n' ∉ line) (rest : List Char) :
    linesOf (line ++ '\n' :: rest) = line :: linesOf rest := by
  induction line with
  | nil => exact linesOf_end rest
  | cons c line ih =>
    have hc : c ≠ '\n' := Ne.symm (List.ne_of_not_mem_cons h)
    exact linesOf_cons hc (ih (List.not_mem_of_not_mem_cons h))

/-- Without a line end there is one line, if there is anything. -/
theorem linesOf_of_no_end {line : List Char} (h : '\n' ∉ line) (hne : line ≠ []) :
    linesOf line = [line] := by
  induction line with
  | nil => exact absurd rfl hne
  | cons c line ih =>
    have hc : c ≠ '\n' := Ne.symm (List.ne_of_not_mem_cons h)
    have hline : '\n' ∉ line := List.not_mem_of_not_mem_cons h
    cases line with
    | nil => exact linesOf_singleton hc
    | cons c' line => exact linesOf_cons hc (ih hline (List.cons_ne_nil _ _))

/-- Each line end up to some place ends a line. -/
theorem length_linesOf_append_end (chars rest : List Char) :
    (linesOf (chars ++ '\n' :: rest)).length
      = chars.count '\n' + 1 + (linesOf rest).length := by
  induction chars with
  | nil =>
    rw [List.nil_append, linesOf_end, List.length_cons, List.count_nil]
    omega
  | cons c chars ih =>
    rw [List.cons_append, List.count_cons]
    by_cases hc : c = '\n'
    · rw [hc, linesOf_end, List.length_cons, ih, if_pos (beq_self_eq_true _)]
      omega
    · -- The line to which the character belongs is counted already.
      rw [if_neg (mt eq_of_beq hc), Nat.add_zero, ← ih]
      cases hlines : linesOf (chars ++ '\n' :: rest) with
      | nil =>
        rw [hlines, List.length_nil] at ih
        omega
      | cons line later =>
        rw [linesOf_cons hc hlines]
        rfl

end Text

open Text

/-! ## Numbers -/

/-- A number in decimal has digits only. -/
theorem isDigit_of_mem_toString {n : Nat} {c : Char} (h : c ∈ (toString n).toList) :
    c.isDigit = true := by
  rw [Nat.toString_eq_ofList_toDigits, String.toList_ofList] at h
  exact Nat.isDigit_of_mem_toDigits (by decide) (by decide) h

/-- A number in decimal is on one line. -/
theorem isLine_toString (n : Nat) : IsLine (toString n) := by
  intro hend
  exact absurd (isDigit_of_mem_toString hend) (by decide)

namespace Hex

/-- The digits in lower case. -/
def lowerDigits : List Char :=
  "0123456789abcdef".toList

/-- A number below sixteen has a digit in lower case. -/
theorem digitChar_mem {n : Nat} (h : n < 16) : Nat.digitChar n ∈ lowerDigits := by
  have key : ∀ m : Fin 16, Nat.digitChar m ∈ lowerDigits := by decide
  exact key ⟨n, h⟩

/-- The digits of a byte are in lower case. -/
theorem mem_byteDigits {b : UInt8} {c : Char} (hc : c ∈ byteDigits b) : c ∈ lowerDigits := by
  have hb : b.toNat < 256 := b.toNat_lt
  simp only [byteDigits, List.mem_cons, List.not_mem_nil, or_false] at hc
  rcases hc with rfl | rfl
  all_goals exact digitChar_mem (by omega)

/-- The digits of a word are in lower case. -/
theorem mem_wordDigits {w : UInt16} {c : Char} (hc : c ∈ wordDigits w) : c ∈ lowerDigits := by
  have hw : w.toNat < 65536 := w.toNat_lt
  simp only [wordDigits, List.mem_cons, List.not_mem_nil, or_false] at hc
  rcases hc with rfl | rfl | rfl | rfl
  all_goals exact digitChar_mem (by omega)

/-- The characters of a printed reply: a blank and two digits for each byte. -/
theorem toList_line (bytes : List UInt8) :
    (line bytes).toList = bytes.flatMap
      (fun b => [' ', Nat.digitChar (b.toNat / 16), Nat.digitChar (b.toNat % 16)]) := by
  rw [line, String.toList_ofList]
  rfl

/-- A printed reply has blanks and digits in lower case only. -/
theorem mem_lineChars {bytes : List UInt8} {c : Char} (hc : c ∈ lineChars bytes) :
    c = ' ' ∨ c ∈ lowerDigits := by
  obtain ⟨b, -, hb⟩ := List.mem_flatMap.1 hc
  exact (List.mem_cons.1 hb).imp_right mem_byteDigits

/-- No digit is the line end. -/
theorem ne_end_of_lower {c : Char} (h : c ∈ lowerDigits) : c ≠ '\n' := by
  rintro rfl
  exact absurd h (by decide)

/-- A byte in hexadecimal is on one line. -/
theorem isLine_byte (b : UInt8) : IsLine (byte b) :=
  isLine_ofList fun _ hc => ne_end_of_lower (mem_byteDigits hc)

/-- A word in hexadecimal is on one line. -/
theorem isLine_word (w : UInt16) : IsLine (word w) :=
  isLine_ofList fun _ hc => ne_end_of_lower (mem_wordDigits hc)

/-- A printed reply is on one line. -/
theorem isLine_line (bytes : List UInt8) : IsLine (line bytes) := by
  apply isLine_ofList
  rintro c hc rfl
  rcases mem_lineChars hc with hblank | hdigit
  · exact absurd hblank (by decide)
  · exact ne_end_of_lower hdigit rfl

end Hex

/-! ## Faults of a reply -/

/-- A fault of a reply is reported on one line, unless it is in words that are not. -/
theorem ReplyFault.isLine_message {fault : ReplyFault}
    (h : ∀ text, fault = .stated text → IsLine text) : IsLine fault.message := by
  cases fault with
  | stated text => exact h text rfl
  | emptyReply => decide
  | truncatedHeader => decide
  | shortCommandComplete => decide
  | shortCommandStatus => decide
  | notAnEvent indicator => exact .append (by decide) (Hex.isLine_byte _)
  | failedStatus status => exact .append (by decide) (Hex.isLine_byte _)
  | unexpectedEvent code => exact .append (by decide) (Hex.isLine_byte _)
  | truncatedParameters declared received =>
    have hdeclared : IsLine ("event declares " ++ toString declared) :=
      .append (by decide) (isLine_toString _)
    exact ((hdeclared.append (by decide)).append (isLine_toString _)).append (by decide)
  | shortVersion needed received =>
    have hneeded : IsLine ("version information needs " ++ toString needed) :=
      .append (by decide) (isLine_toString _)
    exact (hneeded.append (by decide)).append (isLine_toString _)
  | otherCommand opcode expected =>
    have hopcode : IsLine ("Command Complete for opcode 0x" ++ Hex.word opcode) :=
      .append (by decide) (Hex.isLine_word _)
    exact (hopcode.append (by decide)).append (Hex.isLine_word _)
  | commandStatus status opcode =>
    have hstatus : IsLine ("Command Status 0x" ++ Hex.byte status) :=
      .append (by decide) (Hex.isLine_byte _)
    exact (hstatus.append (by decide)).append (Hex.isLine_word _)

/-- The first fault is that of one of the checks. -/
theorem Check.exists_of_firstFault {checks : List Check} {fault : ReplyFault}
    (h : firstFault checks = some fault) : ∃ check ∈ checks, check.fault = fault := by
  induction checks with
  | nil => cases h
  | cons check rest ih =>
    rw [firstFault] at h
    split at h
    · exact ⟨check, List.mem_cons_self, Option.some.inj h⟩
    · obtain ⟨later, hlater, hfault⟩ := ih h
      exact ⟨later, List.mem_cons_of_mem _ hlater, hfault⟩

namespace LocalVersion

/-- No check on a reply states its fault in words of its own. -/
theorem fault_ne_stated {r : List UInt8} {check : Check} (h : check ∈ checks r) (text : String) :
    check.fault ≠ .stated text := by
  intro heq
  simp only [checks, Event.checks, Event.paramChecks, answerChecks, List.mem_append, List.mem_cons,
    List.not_mem_nil, or_false] at h
  rcases h with (rfl | rfl | rfl | rfl | rfl | rfl) | rfl | rfl | rfl | rfl | rfl
  all_goals cases heq

/-- The reason why a reply is not decoded is on one line. -/
theorem isLine_message_of_decode {r : List UInt8} {e : ProbeError} (h : decode r = .error e) :
    IsLine e.message := by
  rw [decode_eq] at h
  obtain ⟨fault, hfirst, rfl⟩ := Check.verdict_eq_error_iff.1 h
  obtain ⟨check, hcheck, rfl⟩ := Check.exists_of_firstFault hfirst
  refine .append (by decide) (ReplyFault.isLine_message ?_)
  intro text hstated
  exact absurd hstated (fault_ne_stated hcheck text)

/-! ## Version summaries -/

/-- What is said of the vendor that a company number stands for. -/
def vendorText (id : UInt16) : String :=
  if id = 0x000D then "Texas Instruments"
  else if id = 0x0030 then "STMicroelectronics"
  else "unknown (0x" ++ Hex.word id ++ ")"

/-- A vendor is shown by its name, or by its number if it has none. -/
theorem display_ofId (id : UInt16) : (Vendor.ofId id).display = vendorText id := by
  unfold Vendor.ofId vendorText
  split
  · rfl
  · split
    · rfl
    · rfl

section Summary

variable (v : LocalVersion)

/-- The three lines of a version summary, with all numbers in hexadecimal. -/
def summaryLines : List String :=
  ["HCI version:     0x" ++ Hex.byte v.hciVersion ++ " rev 0x" ++ Hex.word v.hciRevision,
    "LMP version:     0x" ++ Hex.byte v.lmpVersion ++ " sub 0x" ++ Hex.word v.lmpSubversion,
    "Manufacturer id: 0x" ++ Hex.word v.manufacturer ++ " (" ++ vendorText v.manufacturer ++ ")"]

/-- A vendor is shown on one line. -/
theorem isLine_vendor (vendor : Vendor) : IsLine vendor.display := by
  cases vendor with
  | texasInstruments => decide
  | stMicroelectronics => decide
  | unknown id =>
    have hid : IsLine ("unknown (0x" ++ Hex.word id) := .append (by decide) (Hex.isLine_word _)
    exact hid.append (by decide)

/-- A number of one byte and one of two bytes, each after a text on one line, are on one line. -/
theorem isLine_pair {name mark : String} (hname : IsLine name) (hmark : IsLine mark) (b : UInt8)
    (w : UInt16) : IsLine (name ++ Hex.byte b ++ mark ++ Hex.word w) :=
  ((hname.append (Hex.isLine_byte b)).append hmark).append (Hex.isLine_word w)

/-- A version summary with a line end consists of three lines. -/
theorem consistsOf_display :
    ConsistsOf (v.display ++ "\n") [v.hciLine, v.lmpLine, v.manufacturerLine] := by
  have hhci : IsLine v.hciLine := isLine_pair (by decide) (by decide) _ _
  have hlmp : IsLine v.lmpLine := isLine_pair (by decide) (by decide) _ _
  have hid : IsLine ("Manufacturer id: 0x" ++ Hex.word v.manufacturer) :=
    .append (by decide) (Hex.isLine_word _)
  have hmanufacturer : IsLine v.manufacturerLine :=
    ((hid.append (by decide)).append (isLine_vendor _)).append (by decide)
  have hlines := ((consistsOf_singleton hmanufacturer).cons hlmp).cons hhci
  rw [display]
  simpa only [String.append_assoc] using hlines

/-- These are the lines of the summary. -/
theorem summaryLines_eq : v.summaryLines = [v.hciLine, v.lmpLine, v.manufacturerLine] := by
  rw [summaryLines, ← display_ofId]
  rfl

/-- A version summary with a line end consists of its lines. -/
theorem consistsOf_summary : ConsistsOf (v.display ++ "
") v.summaryLines := by
  rw [summaryLines_eq]
  exact v.consistsOf_display

end Summary

end LocalVersion

end VersionProbe
