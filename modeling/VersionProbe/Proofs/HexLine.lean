/-
# What a printed reply tells

A reply is printed as one line of hexadecimal text.  The lines of two runs of bytes make up the line
of both, every byte has the same three places whatever the other bytes are, and the line can be read
back.  Nothing but the line of some bytes shows these bytes or reads back as them, so different
replies are printed differently.

* `readLine_eq_some_iff` : a text reads back as some bytes exactly if it is their line.
* `renders_iff` : a text shows some bytes, place by place, exactly if it is their line.
* `line_faithful` : lines are put together like the bytes, and tell the bytes and their order.
-/
import VersionProbe.Connection
import VersionProbe.Proofs.Lines

namespace VersionProbe.Hex

/-! ## Digits and their values -/

/-- The code of a lower-case digit. -/
theorem toNat_digitChar {n : Nat} (h : n < 16) :
    (Nat.digitChar n).toNat = if n < 10 then n + 48 else n + 87 := by
  have key : ∀ m : Fin 16,
      (Nat.digitChar m).toNat = if m.val < 10 then m.val + 48 else m.val + 87 := by
    decide
  exact key ⟨n, h⟩

/-- A lower-case digit is the one that its value has. -/
theorem digitValue?_eq_some_iff {c : Char} {n : Nat} :
    digitValue? c = some n ↔ n < 16 ∧ c = Nat.digitChar n := by
  constructor
  · intro h
    unfold digitValue? at h
    split at h
    case isTrue hdecimal =>
      have hcode : 48 ≤ c.toNat ∧ c.toNat ≤ 57 := hdecimal
      have hn : c.toNat - 48 = n := Option.some.inj h
      refine ⟨by omega, Char.toNat_inj.1 ?_⟩
      rw [toNat_digitChar (by omega), if_pos (by omega)]
      omega
    case isFalse =>
      split at h
      case isTrue hletter =>
        have hcode : 97 ≤ c.toNat ∧ c.toNat ≤ 102 := hletter
        have hn : c.toNat - 87 = n := Option.some.inj h
        refine ⟨by omega, Char.toNat_inj.1 ?_⟩
        rw [toNat_digitChar (by omega), if_neg (by omega)]
        omega
      case isFalse => cases h
  · rintro ⟨hn, rfl⟩
    exact digitValue?_digitChar hn

/-- Two digits stand for a byte exactly if they are its digits. -/
theorem byteValue?_eq_some_iff {high low : Char} {b : UInt8} :
    byteValue? high low = some b ↔
      high = Nat.digitChar (b.toNat / 16) ∧ low = Nat.digitChar (b.toNat % 16) := by
  constructor
  · intro h
    obtain ⟨m, hhigh, hrest⟩ := Option.bind_eq_some_iff.1 h
    obtain ⟨n, hlow, hbyte⟩ := Option.bind_eq_some_iff.1 hrest
    obtain ⟨hm, hhigh⟩ := digitValue?_eq_some_iff.1 hhigh
    obtain ⟨hn, hlow⟩ := digitValue?_eq_some_iff.1 hlow
    have hvalue : b.toNat = 16 * m + n := by
      have hfits : 16 * m + n < UInt8.size := by
        unfold UInt8.size
        omega
      rw [← Option.some.inj hbyte, UInt8.toNat_ofNat_of_lt' hfits]
    have hhalves : b.toNat / 16 = m ∧ b.toNat % 16 = n := by omega
    rw [hhalves.1, hhalves.2]
    exact ⟨hhigh, hlow⟩
  · rintro ⟨rfl, rfl⟩
    exact byteValue?_digits b

/-! ## Lines -/

/-- A text reads back as some bytes exactly if it is their line. -/
theorem readLine_eq_some_iff {chars : List Char} {bytes : List UInt8} :
    readLine chars = some bytes ↔ chars = lineChars bytes := by
  constructor
  · intro h
    fun_induction readLine chars generalizing bytes with
    | case1 =>
      rw [← Option.some.inj h]
      rfl
    | case2 high low rest ih =>
      obtain ⟨b, hb, hrest⟩ := Option.bind_eq_some_iff.1 h
      obtain ⟨later, hlater, hbytes⟩ := Option.bind_eq_some_iff.1 hrest
      obtain ⟨hhigh, hlow⟩ := byteValue?_eq_some_iff.1 hb
      rw [← Option.some.inj hbytes, lineChars_cons, ← ih hlater, ← hhigh, ← hlow]
    | case3 => cases h
  · rintro rfl
    exact readLine_lineChars bytes

/-- `Renders chars bytes` says that a text shows some bytes: there are three places for each of them,
a blank at every place that is divisible by three, digits in lower case at all others, and the two
digits behind the blank of a byte stand for this byte. -/
structure Renders (chars : List Char) (bytes : List UInt8) : Prop where
  length : chars.length = 3 * bytes.length
  blank : ∀ k c, chars[k]? = some c → k % 3 = 0 → c = ' '
  digit : ∀ k c, chars[k]? = some c → k % 3 ≠ 0 → c ∈ lowerDigits
  byte : ∀ k b, bytes[k]? = some b → ∃ high low,
    chars[3 * k + 1]? = some high ∧ chars[3 * k + 2]? = some low ∧ byteValue? high low = some b

/-- Another byte is shown in front. -/
theorem Renders.cons {chars : List Char} {bytes : List UInt8} (h : Renders chars bytes) (b : UInt8) :
    Renders (' ' :: Nat.digitChar (b.toNat / 16) :: Nat.digitChar (b.toNat % 16) :: chars)
      (b :: bytes) := by
  have hb : b.toNat < 256 := b.toNat_lt
  constructor
  case length =>
    simp only [List.length_cons, h.length]
    omega
  case blank =>
    intro k c hc hk
    rcases k with _ | _ | _ | k
    · exact (Option.some.inj hc).symm
    · omega
    · omega
    · exact h.blank k c hc (by omega)
  case digit =>
    intro k c hc hk
    rcases k with _ | _ | _ | k
    · omega
    · exact Option.some.inj hc ▸ digitChar_mem (by omega)
    · exact Option.some.inj hc ▸ digitChar_mem (by omega)
    · exact h.digit k c hc (by omega)
  case byte =>
    intro k b' hb'
    cases k with
    | zero =>
      rw [← Option.some.inj hb']
      exact ⟨_, _, rfl, rfl, byteValue?_digits b⟩
    | succ k => exact h.byte k b' hb'

/-- The line of some bytes shows them. -/
theorem renders_lineChars (bytes : List UInt8) : Renders (lineChars bytes) bytes := by
  induction bytes with
  | nil =>
    constructor
    case length => rfl
    all_goals
      intro k x hx
      cases hx
  | cons b bytes ih => exact ih.cons b

/-- Behind the first three places of a text all bytes but the first are shown. -/
theorem Renders.tail {c high low : Char} {chars : List Char} {b : UInt8} {bytes : List UInt8}
    (h : Renders (c :: high :: low :: chars) (b :: bytes)) : Renders chars bytes where
  length := by
    have hlength := h.length
    simp only [List.length_cons] at hlength
    omega
  blank k c' hc hk := h.blank (k + 3) c' hc (by omega)
  digit k c' hc hk := h.digit (k + 3) c' hc (by omega)
  byte k b' hb := h.byte (k + 1) b' hb

/-- A text shows some bytes exactly if it is their line. -/
theorem renders_iff {chars : List Char} {bytes : List UInt8} :
    Renders chars bytes ↔ chars = lineChars bytes := by
  constructor
  · intro h
    induction bytes generalizing chars with
    | nil => exact List.eq_nil_of_length_eq_zero h.length
    | cons b bytes ih =>
      rcases chars with _ | ⟨c, _ | ⟨high, _ | ⟨low, chars⟩⟩⟩
      case cons.cons.cons =>
        have hblank : c = ' ' := h.blank 0 c rfl rfl
        obtain ⟨first, second, hfirst, hsecond, hb⟩ := h.byte 0 b rfl
        have hpair : high = first ∧ low = second := ⟨Option.some.inj hfirst, Option.some.inj hsecond⟩
        obtain ⟨hhigh, hlow⟩ := byteValue?_eq_some_iff.1 hb
        rw [lineChars_cons, ← ih h.tail, hblank, hpair.1, hpair.2, hhigh, hlow]
      -- Fewer than three characters are too few for a byte.
      all_goals
        have hlength := h.length
        simp only [List.length_cons, List.length_nil] at hlength
        omega
  · rintro rfl
    exact renders_lineChars bytes

/-- Two lines are the same exactly if the bytes are. -/
theorem lineChars_inj {a b : List UInt8} : lineChars a = lineChars b ↔ a = b := by
  constructor
  · intro h
    have hread := readLine_lineChars a
    rw [h, readLine_lineChars] at hread
    exact (Option.some.inj hread).symm
  · exact congrArg lineChars

/-- **A printed reply loses nothing.**  The line of two runs of bytes is the line of the first and
then that of the second.  The line of some bytes shows them place by place: three places for each, a
blank and its two digits in lower case.  No other text shows these bytes, or reads back as them.  So
two lines are the same, and two replies are printed the same, exactly if all bytes are and in the
same order. -/
theorem line_faithful (a b : List UInt8) :
    line (a ++ b) = line a ++ line b ∧
      Renders (line a).toList a ∧
      (∀ text : String, Renders text.toList a → text = line a) ∧
      (∀ text : String, readLine text.toList = some a ↔ text = line a) ∧
      (line a = line b ↔ a = b) ∧
      ((⟨a⟩ : Reply).line = (⟨b⟩ : Reply).line ↔ (⟨a⟩ : Reply) = ⟨b⟩) := by
  have hchars : ∀ text : String, text.toList = lineChars a ↔ text = line a := by
    intro text
    rw [line, ← String.toList_inj, String.toList_ofList]
  have hinj : line a = line b ↔ a = b := by
    rw [line, line, String.ofList_inj, lineChars_inj]
  refine ⟨?_, ?_, ?_, ?_, hinj, ?_⟩
  · rw [line, lineChars_append, String.ofList_append]
    rfl
  · exact renders_iff.2 ((hchars (line a)).2 rfl)
  · intro text hshows
    exact (hchars text).1 (renders_iff.1 hshows)
  · intro text
    rw [readLine_eq_some_iff, hchars]
  · rw [Reply.mk.injEq]
    exact hinj

/-- A byte below sixteen keeps its leading zero, so it is not taken for a part of its neighbour. -/
example : (⟨[0x00, 0x0F, 0xF0]⟩ : Reply).line = " 00 0f f0" := by
  decide

end VersionProbe.Hex
