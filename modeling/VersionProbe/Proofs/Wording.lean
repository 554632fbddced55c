/-
# How the log lists bytes

The log lists bytes in two of its lines, on a frame that was written and on what a read brought: how
many they are, and then each of them in two lower-case digits, in brackets and separated by commas
and blanks.  No other wording has a bracket before its bytes, so the bytes that a line lists can be
read back from it.

* `message_wrote`, `message_received` : the wording of the two lines.
* `listed?_wordingOn` : the bytes that they list are read back.
-/
import VersionProbe.Log
import VersionProbe.Proofs.Lines

namespace VersionProbe.LogEntry

/-- The wording on some bytes: what was done with them, how many they are, and the two digits of
each. -/
def wordingOn (deed : String) (bytes : List UInt8) : String :=
  deed ++ toString bytes.length ++ " bytes: "
    ++ ("[" ++ ", ".intercalate (bytes.map fun b =>
        String.ofList [Nat.digitChar (b.toNat / 16), Nat.digitChar (b.toNat % 16)]) ++ "]")

/-- The bytes that a line of the log lists, if it lists any: they are in brackets. -/
def listed? (line : String) : Option (List UInt8) :=
  Hex.readListing (line.toList.dropWhile (· ≠ '['))

/-- A frame that was written is listed. -/
theorem message_wrote (frame : List UInt8) : (wrote frame).message = wordingOn "wrote " frame :=
  rfl

/-- The bytes that a read brought are listed. -/
theorem message_received (bytes : List UInt8) :
    (received bytes).message = wordingOn "read " bytes :=
  rfl

/-- What was done with bytes may be worded in several parts. -/
theorem append_wordingOn (head deed : String) (bytes : List UInt8) :
    head ++ wordingOn deed bytes = wordingOn (head ++ deed) bytes := by
  simp only [wordingOn, String.append_assoc]

/-- A frame that was written is of interest to someone who looks for a fault. -/
theorem text_wrote (frame : List UInt8) : (wrote frame).text = wordingOn "DEBUG wrote " frame := by
  have hhead : (wrote frame).level.name ++ " " = "DEBUG " := rfl
  have hfields : (wrote frame).fieldText = "" := rfl
  have hdeed : "DEBUG " ++ "wrote " = "DEBUG wrote " := rfl
  rw [text, hhead, message_wrote, hfields, String.append_empty, append_wordingOn, hdeed]

/-- A count has no bracket. -/
theorem not_mem_count (n : Nat) : '[' ∉ (toString n).toList := by
  intro hcount
  exact absurd (isDigit_of_mem_toString hcount) (by decide)

/-- What comes before the first bracket does not matter for what a line lists. -/
theorem listed?_append {before : String} (h : '[' ∉ before.toList) (rest : String) :
    listed? (before ++ rest) = listed? rest := by
  have hbefore : ∀ c ∈ before.toList, decide (c ≠ '[') = true := by
    intro c hc
    apply decide_eq_true
    rintro rfl
    exact h hc
  rw [listed?, listed?, String.toList_append, List.dropWhile_append_of_pos hbefore]

/-- A line without a bracket lists no bytes. -/
theorem listed?_of_no_list {line : String} (h : '[' ∉ line.toList) : listed? line = none := by
  rw [← String.append_empty (s := line), listed?_append h]
  rfl

/-- A list of bytes is read back. -/
theorem listed?_listing (bytes : List UInt8) : listed? (Hex.listing bytes) = some bytes := by
  have hlist := Hex.readListing_listing bytes
  rw [Hex.toList_listing] at hlist
  rw [listed?, Hex.toList_listing, List.dropWhile_cons_of_neg (by decide), hlist]

/-- The bytes that a line lists are read back. -/
theorem listed?_wordingOn {deed : String} (h : '[' ∉ deed.toList) (bytes : List UInt8) :
    listed? (wordingOn deed bytes) = some bytes := by
  have hcount : '[' ∉ (deed ++ toString bytes.length).toList :=
    Text.not_mem_append_iff.2 ⟨h, not_mem_count _⟩
  have hbefore : '[' ∉ (deed ++ toString bytes.length ++ " bytes: ").toList :=
    Text.not_mem_append_iff.2 ⟨hcount, by decide⟩
  have hwording : wordingOn deed bytes
      = deed ++ toString bytes.length ++ " bytes: " ++ Hex.listing bytes := rfl
  rw [hwording, listed?_append hbefore, listed?_listing]

end VersionProbe.LogEntry
