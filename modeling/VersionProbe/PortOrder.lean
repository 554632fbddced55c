/-
# The order of ports

Ports are listed in three groups, by the last part of their names: first those that start with
`ttyACM`, then those that start with `ttyUSB`, both by number, then all others by name.

* `SortKey.le_trans`, `SortKey.le_total` : the order of the keys is total;
* `SortKey.eq_of_le_of_le` : and no two keys are tied.
-/
import VersionProbe.ByteOrder
import VersionProbe.Decimal
import VersionProbe.Port

namespace VersionProbe

/-! ## Names -/

/-- The part of a name after its last slash. -/
def baseName (name : List Char) : List Char :=
  (name.reverse.takeWhile (· ≠ '/')).reverse

/-- The group that a port is listed in. -/
inductive PortGroup
  | acm
  | usb
  | rest
deriving DecidableEq

/-- The place of a group among the three. -/
def PortGroup.rank : PortGroup → Nat
  | acm => 0
  | usb => 1
  | rest => 2

/-- The group of a port and what follows the group's mark in the last part of its name. -/
def PortGroup.ofBase (base : List Char) : PortGroup × List Char :=
  match "ttyACM".toList.isPrefixOf? base with
  | some suffix => (acm, suffix)
  | none =>
    match "ttyUSB".toList.isPrefixOf? base with
    | some suffix => (usb, suffix)
    | none => (rest, base)

/-! ## Keys -/

/-- What ports are ordered by: the group, the number within it, and the last part of the name. -/
structure SortKey where
  group : PortGroup
  number : Nat
  base : List UInt8
deriving DecidableEq

namespace SortKey

/-- The key of a port name.  A port of the first two groups without a number counts as having the
largest one, and the ports of the last group have no numbers. -/
def ofName (name : String) : SortKey :=
  let base := baseName name.toList
  let bytes := utf8 (String.ofList base)
  match PortGroup.ofBase base with
  | (.rest, _) => ⟨.rest, 0, bytes⟩
  | (group, suffix) => ⟨group, (number? suffix).getD maxNumber, bytes⟩

/-- Whether a key comes before another or is the same: groups count first, then numbers, then
names. -/
def le (a b : SortKey) : Bool :=
  if a.group.rank < b.group.rank then true
  else if b.group.rank < a.group.rank then false
  else if a.number < b.number then true
  else if b.number < a.number then false
  else bytesLe a.base b.base

/-- Of two keys one comes before the other. -/
theorem le_total (a b : SortKey) : a.le b = true ∨ b.le a = true := by
  simp only [le]
  rcases Nat.lt_trichotomy a.group.rank b.group.rank with h | h | h
  · simp [h]
  · rcases Nat.lt_trichotomy a.number b.number with hn | hn | hn
    · simp [h, hn]
    · simp [h, hn, bytesLe_total]
    · simp [h, hn]
  · simp [h]

/-- The order of the keys is transitive. -/
theorem le_trans {a b c : SortKey} (hab : a.le b = true) (hbc : b.le c = true) :
    a.le c = true := by
  simp only [le] at hab hbc ⊢
  grind [bytesLe_trans]

/-- The groups are told apart by their places. -/
theorem rank_inj {a b : PortGroup} (h : a.rank = b.rank) : a = b := by
  revert h
  cases a <;> cases b <;> decide

/-- No two keys are tied. -/
theorem eq_of_le_of_le {a b : SortKey} (hab : a.le b = true) (hba : b.le a = true) : a = b := by
  obtain ⟨ga, na, ba⟩ := a
  obtain ⟨gb, nb, bb⟩ := b
  simp only [le] at hab hba
  have hg : ga.rank = gb.rank := by grind
  have hn : na = nb := by grind
  subst hn
  rw [rank_inj hg] at *
  simp only [Nat.lt_irrefl, if_false] at hab hba
  rw [eq_of_bytesLe_of_bytesLe hab hba]

end SortKey

/-- Whether a port comes before another in the listing, or may. -/
def Port.le (p q : Port) : Bool :=
  (SortKey.ofName p.name).le (SortKey.ofName q.name)

/-- Whether the name of a port comes before that of another byte by byte, or is the same. -/
def Port.nameLe (p q : Port) : Bool :=
  bytesLe (utf8 p.name) (utf8 q.name)

end VersionProbe
