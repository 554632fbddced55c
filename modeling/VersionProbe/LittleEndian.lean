/-
# Words on the wire

Every two-byte field of a packet travels with its low byte first.

* `word_low_high` : a word is rebuilt from its two bytes;
* `low_word`, `high_word` : the two bytes of a word are the ones it was built from.
-/

namespace VersionProbe.LittleEndian

/-- The word that two bytes carry, the low one first. -/
def word (low high : UInt8) : UInt16 :=
  UInt16.ofNat (low.toNat + 256 * high.toNat)

/-- The byte of a word that travels first. -/
def low (w : UInt16) : UInt8 :=
  UInt8.ofNat (w.toNat % 256)

/-- The byte of a word that travels second. -/
def high (w : UInt16) : UInt8 :=
  UInt8.ofNat (w.toNat / 256)

/-- The number that two bytes carry. -/
theorem toNat_word (l h : UInt8) : (word l h).toNat = l.toNat + 256 * h.toNat := by
  have hl : l.toNat < 256 := l.toNat_lt
  have hh : h.toNat < 256 := h.toNat_lt
  rw [word, UInt16.toNat_ofNat']
  exact Nat.mod_eq_of_lt (by omega)

/-- A word is rebuilt from its two bytes. -/
theorem word_low_high (w : UInt16) : word (low w) (high w) = w := by
  have hw : w.toNat < 65536 := w.toNat_lt
  apply UInt16.toNat_inj.1
  rw [toNat_word, low, high, UInt8.toNat_ofNat', UInt8.toNat_ofNat']
  omega

/-- The low byte of a word is the first it was built from. -/
theorem low_word (l h : UInt8) : low (word l h) = l := by
  have hl : l.toNat < 256 := l.toNat_lt
  apply UInt8.toNat_inj.1
  rw [low, UInt8.toNat_ofNat', toNat_word]
  omega

/-- The high byte of a word is the second it was built from. -/
theorem high_word (l h : UInt8) : high (word l h) = h := by
  have hl : l.toNat < 256 := l.toNat_lt
  have hh : h.toNat < 256 := h.toNat_lt
  apply UInt8.toNat_inj.1
  rw [high, UInt8.toNat_ofNat', toNat_word]
  omega

end VersionProbe.LittleEndian
