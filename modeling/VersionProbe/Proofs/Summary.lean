/-
# What a version summary tells

A version summary has three lines.  Each of the five numbers has its place there, a line and a column
that do not depend on the version, and always as many digits, so that it can be read back from the
text.  The vendor follows from the number of the manufacturer.  So a summary tells the whole version
information, which are eight bytes of the reply, and nothing else of the reply.

* `Field.read_display` : what stands at the place of a number.
* `display_inj` : different versions have different summaries.
* `slice_of_decode` : the version information is eight bytes of the reply.
* `summary_tells_all` : two summaries are the same exactly if these bytes of the replies are.
-/
import VersionProbe.Proofs.Lines

namespace VersionProbe

/-! ## Numbers in a text -/

namespace Hex

/-- The number that digits stand for, the highest first. -/
def number? (digits : List Char) : Option Nat :=
  digits.foldlM (fun n c => (digitValue? c).map (16 * n + ·)) 0

/-- Digits stand for what their values come to, if each of them is a digit. -/
theorem number?_map_digitChar {values : List Nat} (h : ∀ d ∈ values, d < 16) :
    number? (values.map Nat.digitChar) = some (values.foldl (fun n d => 16 * n + d) 0) := by
  unfold number?
  generalize 0 = start
  induction values generalizing start with
  | nil => rfl
  | cons d values ih =>
    obtain ⟨hd, hvalues⟩ := List.forall_mem_cons.1 h
    rw [List.map_cons, List.foldlM_cons, digitValue?_digitChar hd]
    exact ih hvalues (16 * start + d)

/-- The digits of a byte stand for it. -/
theorem number?_byteDigits (b : UInt8) : number? (byteDigits b) = some b.toNat := by
  have hb : b.toNat < 256 := b.toNat_lt
  have hdigits : ∀ d ∈ [b.toNat / 16, b.toNat % 16], d < 16 := by
    intro d hd
    simp only [List.mem_cons, List.not_mem_nil, or_false] at hd
    omega
  have hvalue : 16 * (16 * 0 + b.toNat / 16) + b.toNat % 16 = b.toNat := by omega
  exact (number?_map_digitChar hdigits).trans (congrArg some hvalue)

/-- The digits of a word stand for it. -/
theorem number?_wordDigits (w : UInt16) : number? (wordDigits w) = some w.toNat := by
  have hw : w.toNat < 65536 := w.toNat_lt
  have hdigits : ∀ d ∈ [w.toNat / 4096, w.toNat / 256 % 16, w.toNat / 16 % 16, w.toNat % 16],
      d < 16 := by
    intro d hd
    simp only [List.mem_cons, List.not_mem_nil, or_false] at hd
    omega
  have hvalue : 16 * (16 * (16 * (16 * 0 + w.toNat / 4096) + w.toNat / 256 % 16)
      + w.toNat / 16 % 16) + w.toNat % 16 = w.toNat := by
    omega
  exact (number?_map_digitChar hdigits).trans (congrArg some hvalue)

end Hex

namespace Text

/-- A place in a text: a line, the column at which it begins, and the number of columns. -/
structure Place where
  line : Nat
  column : Nat
  width : Nat

/-- The characters that stand at a place of a text. -/
def Place.read (p : Place) (text : String) : List Char :=
  (((lines text).getD p.line "").toList.drop p.column).take p.width

/-- `Shows p n text` says that at a place of a text stands a number, in lower-case digits that fill the
place. -/
structure Place.Shows (p : Place) (n : Nat) (text : String) : Prop where
  filled : (p.read text).length = p.width
  lower : ∀ c ∈ p.read text, c ∈ Hex.lowerDigits
  value : Hex.number? (p.read text) = some n

/-- What stands at a place of a text, if the line there is known up to the place. -/
theorem Place.read_eq {p : Place} {text line : String} {before middle after : List Char}
    (hline : (lines text).getD p.line "" = line)
    (hparts : line.toList = before ++ (middle ++ after)) (hcolumn : before.length = p.column)
    (hwidth : middle.length = p.width) : p.read text = middle := by
  rw [read, hline, hparts, List.drop_left' hcolumn, List.take_left' hwidth]

end Text

open Text

namespace LocalVersion

/-! ## The places of the numbers -/

/-- The numbers of a version summary. -/
inductive Field
  | hciVersion
  | hciRevision
  | lmpVersion
  | lmpSubversion
  | manufacturer
deriving DecidableEq

namespace Field

/-- The place of a number in a summary. -/
def place : Field → Place
  | hciVersion => ⟨0, 19, 2⟩
  | hciRevision => ⟨0, 28, 4⟩
  | lmpVersion => ⟨1, 19, 2⟩
  | lmpSubversion => ⟨1, 28, 4⟩
  | manufacturer => ⟨2, 19, 4⟩

/-- The number itself. -/
def value (v : LocalVersion) : Field → Nat
  | hciVersion => v.hciVersion.toNat
  | hciRevision => v.hciRevision.toNat
  | lmpVersion => v.lmpVersion.toNat
  | lmpSubversion => v.lmpSubversion.toNat
  | manufacturer => v.manufacturer.toNat

/-- The digits of a number: two for a byte, four for a word. -/
def digits (v : LocalVersion) : Field → List Char
  | hciVersion => Hex.byteDigits v.hciVersion
  | hciRevision => Hex.wordDigits v.hciRevision
  | lmpVersion => Hex.byteDigits v.lmpVersion
  | lmpSubversion => Hex.wordDigits v.lmpSubversion
  | manufacturer => Hex.wordDigits v.manufacturer

/-- The digits are those of the number. -/
theorem number?_digits (v : LocalVersion) (f : Field) :
    Hex.number? (f.digits v) = some (f.value v) := by
  cases f with
  | hciVersion => exact Hex.number?_byteDigits _
  | hciRevision => exact Hex.number?_wordDigits _
  | lmpVersion => exact Hex.number?_byteDigits _
  | lmpSubversion => exact Hex.number?_wordDigits _
  | manufacturer => exact Hex.number?_wordDigits _

/-- The digits are in lower case. -/
theorem digits_lower (v : LocalVersion) (f : Field) :
    ∀ c ∈ f.digits v, c ∈ Hex.lowerDigits := by
  intro c hc
  cases f with
  | hciVersion => exact Hex.mem_byteDigits hc
  | hciRevision => exact Hex.mem_wordDigits hc
  | lmpVersion => exact Hex.mem_byteDigits hc
  | lmpSubversion => exact Hex.mem_wordDigits hc
  | manufacturer => exact Hex.mem_wordDigits hc

/-- There are as many digits as the place has columns. -/
theorem length_digits (v : LocalVersion) (f : Field) :
    (f.digits v).length = f.place.width := by
  cases f <;> rfl

end Field

/-! ## The lines of a summary -/

/-- The characters of a line with a byte and a word. -/
theorem toList_pair (name mark : String) (b : UInt8) (w : UInt16) :
    (name ++ Hex.byte b ++ mark ++ Hex.word w).toList
      = name.toList ++ (Hex.byteDigits b ++ (mark.toList ++ Hex.wordDigits w)) := by
  simp only [String.toList_append, Hex.byte, Hex.word, String.toList_ofList, List.append_assoc]

/-- The word stands at the end of its line. -/
theorem toList_pair_word (name mark : String) (b : UInt8) (w : UInt16) :
    (name ++ Hex.byte b ++ mark ++ Hex.word w).toList
      = name.toList ++ (Hex.byteDigits b ++ mark.toList) ++ (Hex.wordDigits w ++ []) := by
  rw [toList_pair, List.append_nil, List.append_assoc, List.append_assoc]

/-- The column at which the word stands. -/
theorem length_before_word {name mark : String} (hname : name.toList.length = 19)
    (hmark : mark.toList.length = 7) (b : UInt8) :
    (name.toList ++ (Hex.byteDigits b ++ mark.toList)).length = 28 := by
  rw [List.length_append, List.length_append, hname, hmark]
  rfl

/-- The characters of a line with a word and a text in brackets. -/
theorem toList_note (name opening text closing : String) (w : UInt16) :
    (name ++ Hex.word w ++ opening ++ text ++ closing).toList
      = name.toList ++ (Hex.wordDigits w ++ (opening.toList ++ (text.toList ++ closing.toList))) := by
  simp only [String.toList_append, Hex.word, String.toList_ofList, List.append_assoc]

section Summary

variable (v : LocalVersion)

/-- The lines of a summary. -/
theorem lines_display : lines v.display = [v.hciLine, v.lmpLine, v.manufacturerLine] := by
  have hlines := v.consistsOf_display.2
  simp only [List.forall_mem_cons] at hlines
  obtain ⟨hhci, hlmp, hmanufacturer, -⟩ := hlines
  have hne : v.manufacturerLine.toList ≠ [] := by
    have hname : "Manufacturer id: 0x".toList ≠ [] := by decide
    unfold manufacturerLine
    rw [toList_note]
    exact List.append_ne_nil_of_left_ne_nil hname _
  have htext : v.display.toList
      = v.hciLine.toList ++ '\n' :: (v.lmpLine.toList ++ '\n' :: v.manufacturerLine.toList) := by
    have hend : "\n".toList = ['\n'] := by decide
    simp only [display, String.toList_append, hend, List.append_assoc, List.cons_append,
      List.nil_append]
  rw [lines, htext, linesOf_append_end hhci, linesOf_append_end hlmp,
    linesOf_of_no_end hmanufacturer hne]
  simp only [List.map_cons, List.map_nil, String.ofList_toList]

/-- The digits of a number stand at its place. -/
theorem Field.read_display (f : Field) : f.place.read v.display = f.digits v := by
  have hwidth : (f.digits v).length = f.place.width := f.length_digits v
  have hline : ∀ line, [v.hciLine, v.lmpLine, v.manufacturerLine].getD f.place.line "" = line →
      (lines v.display).getD f.place.line "" = line := by
    intro line h
    rw [lines_display, h]
  cases f with
  | hciVersion => exact Place.read_eq (hline _ rfl) (toList_pair _ _ _ _) (by decide) hwidth
  | lmpVersion => exact Place.read_eq (hline _ rfl) (toList_pair _ _ _ _) (by decide) hwidth
  | manufacturer => exact Place.read_eq (hline _ rfl) (toList_note _ _ _ _ _) (by decide) hwidth
  | hciRevision =>
    exact Place.read_eq (hline _ rfl) (toList_pair_word _ _ _ _)
      (length_before_word (by decide) (by decide) _) hwidth
  | lmpSubversion =>
    exact Place.read_eq (hline _ rfl) (toList_pair_word _ _ _ _)
      (length_before_word (by decide) (by decide) _) hwidth

/-- A number can be read off a summary. -/
theorem Field.shows_display (f : Field) : f.place.Shows (f.value v) v.display := by
  have hread : f.place.read v.display = f.digits v := f.read_display v
  constructor
  case filled => rw [hread, f.length_digits]
  case lower =>
    rw [hread]
    exact f.digits_lower v
  case value => rw [hread, f.number?_digits]

end Summary

/-- Two summaries are the same exactly if the versions are. -/
theorem display_inj {v w : LocalVersion} : v.display = w.display ↔ v = w := by
  constructor
  · intro h
    -- Where the texts are the same, each place shows the same number.
    have hvalue : ∀ f : Field, f.value v = f.value w := by
      intro f
      have hv := (f.shows_display v).value
      rw [h, (f.shows_display w).value] at hv
      exact (Option.some.inj hv).symm
    cases v
    cases w
    simp only [mk.injEq]
    exact ⟨UInt8.toNat_inj.1 (hvalue .hciVersion), UInt16.toNat_inj.1 (hvalue .hciRevision),
      UInt8.toNat_inj.1 (hvalue .lmpVersion), UInt16.toNat_inj.1 (hvalue .manufacturer),
      UInt16.toNat_inj.1 (hvalue .lmpSubversion)⟩
  · exact congrArg display

/-! ## The bytes of the version information -/

/-- Eight bytes are the version information that they hold. -/
theorem returnParams_fieldsFrom {bytes : List UInt8} (h : bytes.length = byteCount) :
    (fieldsFrom 0 bytes).returnParams = bytes := by
  rcases bytes with _ | ⟨b₀, _ | ⟨b₁, _ | ⟨b₂, _ | ⟨b₃, _ | ⟨b₄, _ | ⟨b₅, _ | ⟨b₆, _ | ⟨b₇, rest⟩⟩⟩⟩⟩⟩⟩⟩
  case cons.cons.cons.cons.cons.cons.cons.cons =>
    have hrest : rest = [] := by
      simp only [List.length_cons, byteCount] at h
      exact List.eq_nil_of_length_eq_zero (by omega)
    simp only [hrest, returnParams, fieldsFrom, LittleEndian.low_word, LittleEndian.high_word]
    rfl
  all_goals cases h

/-- Different versions have different bytes. -/
theorem returnParams_inj {v w : LocalVersion} : v.returnParams = w.returnParams ↔ v = w := by
  constructor
  · intro h
    have hv := ofReturnParams_returnParams_append v []
    rw [h, ofReturnParams_returnParams_append] at hv
    exact (Except.ok.inj hv).symm
  · exact congrArg returnParams

/-- The version information of a reply is held by the eight bytes from its eighth on. -/
theorem slice_of_decode {r : List UInt8} {v : LocalVersion} (h : decode r = .ok v) :
    slice? 7 15 r = some v.returnParams := by
  have hcarries : Carries r v := decode_eq_ok_iff.1 h
  have henough : 15 ≤ r.length := by
    have hdeclared := hcarries.enough
    have hwhole := hcarries.whole
    omega
  have hlength : ((r.take 15).drop 7).length = byteCount := by
    rw [List.length_drop, List.length_take, Nat.min_eq_left henough]
    rfl
  have hfields : v = fieldsFrom 0 ((r.take 15).drop 7) := by
    rw [(carries_iff.1 hcarries).2]
    refine fieldsFrom_congr fun i hi => ?_
    rw [byteAt_drop, Nat.zero_add, byteAt_take (by omega)]
  rw [slice?_of_le (by decide) henough, hfields, returnParams_fieldsFrom hlength]

/-- **A version summary loses nothing.**  Two replies that are decoded have the same summary exactly
if the version information is the same, the vendor with it, and exactly if the eight bytes from the
eighth on are the same; these are the bytes that the version information is sent as.  A summary has
three lines, and each number stands in it at a place of its own, in lower-case digits that fill the
place, from which it can be read back. -/
theorem summary_tells_all {r s : List UInt8} {v w : LocalVersion} (hr : decode r = .ok v)
    (hs : decode s = .ok w) :
    (v.display = w.display ↔ v = w ∧ v.vendor = w.vendor) ∧
      (v.display = w.display ↔ slice? 7 15 r = slice? 7 15 s) ∧
      slice? 7 15 r = some v.returnParams ∧
      (lines v.display).length = 3 ∧
      ∀ f : Field, f.place.Shows (f.value v) v.display := by
  refine ⟨?_, ?_, slice_of_decode hr, ?_, fun f => f.shows_display v⟩
  · rw [display_inj]
    exact ⟨fun h => ⟨h, congrArg vendor h⟩, And.left⟩
  · rw [display_inj, slice_of_decode hr, slice_of_decode hs, Option.some.injEq, returnParams_inj]
  · rw [lines_display]
    rfl

/-- Two replies that differ in one byte of the subversion have different summaries, and the second
shows the subversion that is its own. -/
theorem summaries_apart :
    decode sampleReply = .ok ⟨0x06, 0x0102, 0x06, 0x000D, 0x0122⟩ ∧
      decode (sampleReply.set 13 0x23) = .ok ⟨0x06, 0x0102, 0x06, 0x000D, 0x0123⟩ ∧
      display ⟨0x06, 0x0102, 0x06, 0x000D, 0x0122⟩ ≠ display ⟨0x06, 0x0102, 0x06, 0x000D, 0x0123⟩ ∧
      Field.lmpSubversion.place.Shows 0x0123 (display ⟨0x06, 0x0102, 0x06, 0x000D, 0x0123⟩) := by
  have hr : decode sampleReply = .ok ⟨0x06, 0x0102, 0x06, 0x000D, 0x0122⟩ := by
    refine decode_eq_ok_iff.2 ?_
    constructor <;> decide
  have hs : decode (sampleReply.set 13 0x23) = .ok ⟨0x06, 0x0102, 0x06, 0x000D, 0x0123⟩ := by
    refine decode_eq_ok_iff.2 ?_
    constructor <;> decide
  obtain ⟨hsame, -, -, -, hshows⟩ := summary_tells_all hs hr
  refine ⟨hr, hs, fun h => ?_, hshows .lmpSubversion⟩
  have hversions := (hsame.1 h.symm).1
  exact absurd hversions (by decide)

end LocalVersion

end VersionProbe
