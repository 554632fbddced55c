/-
# The order of a listing

In a listing the ports whose names end like `ttyACM0` come first, then those that end like
`ttyUSB0`, then all others.  Within the first two groups the ports are ordered by the numbers at the
end of their names; a port without such a number comes after those that have one, except that it
counts like the largest number there is.  Ports that are tied so far, and all ports of the last
group, are ordered by the bytes of the last parts of their names.

The order is stated by what the names look like, without a key: which part of a name is its last,
which texts are numbers and of what value, and how bytes are ordered.

* `isBase_iff` : which part of a name is its last.
* `number?_eq_some_iff` : which texts are numbers.
* `bytesLe_iff` : lists of bytes are ordered as in a dictionary.
* `precedes_of_le` : ports that are ordered by their keys are ordered by their names.
* `listing_in_order` : every listing is in this order.
-/
import Mathlib
import VersionProbe.Proofs.Ties

namespace VersionProbe

/-! ## Last parts of names -/

/-- `IsBase name base` says that `base` is what follows the last slash of a name, or the whole name
if it has no slash. -/
def IsBase (name base : List Char) : Prop :=
  '/' ∉ base ∧ (name = base ∨ ∃ directory, name = directory ++ '/' :: base)

/-- A text without a slash is its own last part. -/
theorem takeWhile_not_slash {cs : List Char} (h : '/' ∉ cs) (rest : List Char) :
    (cs ++ rest).takeWhile (· ≠ '/') = cs ++ rest.takeWhile (· ≠ '/') := by
  apply List.takeWhile_append_of_pos
  intro c hc
  refine decide_eq_true fun hslash => h ?_
  rwa [← hslash]

/-- Every name has one last part. -/
theorem isBase_iff {name base : List Char} : IsBase name base ↔ baseName name = base := by
  constructor
  · rintro ⟨hslash, rfl | ⟨directory, rfl⟩⟩
    · have hwhole := takeWhile_not_slash (mt List.mem_reverse.1 hslash) []
      rw [List.append_nil] at hwhole
      rw [baseName, hwhole, List.takeWhile_nil, List.append_nil, List.reverse_reverse]
    · have hlast := takeWhile_not_slash (mt List.mem_reverse.1 hslash) ('/' :: directory.reverse)
      have hreverse : (directory ++ '/' :: base).reverse
          = base.reverse ++ '/' :: directory.reverse := by simp
      rw [baseName, hreverse, hlast, List.takeWhile_cons_of_neg (by decide), List.append_nil,
        List.reverse_reverse]
  · rintro rfl
    have hsplit := @List.takeWhile_append_dropWhile _ (· ≠ '/') name.reverse
    constructor
    · intro hmem
      have hpassed := List.mem_takeWhile_imp (List.mem_reverse.1 hmem)
      exact of_decide_eq_true hpassed rfl
    · cases hrest : name.reverse.dropWhile (· ≠ '/') with
      | nil =>
        left
        rw [hrest, List.append_nil] at hsplit
        rw [baseName, hsplit, List.reverse_reverse]
      | cons c directory =>
        right
        -- What stops the search from the end is a slash.
        have hne : name.reverse.dropWhile (· ≠ '/') ≠ [] := by
          rw [hrest]
          exact List.cons_ne_nil _ _
        have hstop := List.head_dropWhile_not (· ≠ '/') hne
        simp only [hrest, List.head_cons] at hstop
        obtain rfl : c = '/' := by simpa using hstop
        have hname := congrArg List.reverse hsplit
        rw [hrest, List.reverse_append, List.reverse_cons, List.reverse_reverse,
          List.append_assoc] at hname
        exact ⟨directory.reverse, hname.symm⟩

/-! ## Numbers -/

/-- The value of an ASCII digit. -/
def digitValue (c : Char) : Nat :=
  c.toNat - '0'.toNat

/-- `IsNumber cs n` says that a text is the number `n` in ASCII digits, at least one of them, with
any zeros and at most one plus sign in front, and that the number has at most 64 bits. -/
def IsNumber (cs : List Char) (n : Nat) : Prop :=
  ∃ digits, (cs = digits ∨ cs = '+' :: digits) ∧ digits ≠ [] ∧
    (∀ c ∈ digits, '0' ≤ c ∧ c ≤ '9') ∧
    Nat.ofDigits 10 (digits.reverse.map digitValue) = n ∧ n < 2 ^ 64

/-- Digits are read from the first to the last. -/
theorem foldl_digits (digits : List Char) :
    digits.foldl (fun n c => 10 * n + (c.toNat - 48)) 0
      = Nat.ofDigits 10 (digits.reverse.map digitValue) := by
  induction digits using List.reverseRecOn with
  | nil => rfl
  | append_singleton digits c ih =>
    rw [List.foldl_append, ih, List.reverse_append, List.reverse_singleton, List.singleton_append,
      List.map_cons, Nat.ofDigits_cons, Nat.add_comm]
    rfl

/-- An ASCII digit is a character from `0` to `9`. -/
theorem isDigit_iff {c : Char} : c.isDigit = true ↔ '0' ≤ c ∧ c ≤ '9' := by
  simp [Char.isDigit, Char.le_def]

/-- Decimal digits are at least one digit and nothing else. -/
theorem digits?_eq_some_iff {cs : List Char} {n : Nat} :
    digits? cs = some n ↔
      cs ≠ [] ∧ (∀ c ∈ cs, '0' ≤ c ∧ c ≤ '9') ∧
        Nat.ofDigits 10 (cs.reverse.map digitValue) = n := by
  rw [← foldl_digits, digits?]
  simp only [← isDigit_iff, ← List.all_eq_true, List.isEmpty_iff]
  by_cases hnil : cs = []
  · simp [hnil]
  · by_cases hall : cs.all Char.isDigit = true
    · simp [hnil, hall]
    · simp [hnil, hall]

/-- The texts that are read as numbers are those that are numbers. -/
theorem number?_eq_some_iff {cs : List Char} {n : Nat} : number? cs = some n ↔ IsNumber cs n := by
  have hrange : n ≤ maxNumber ↔ n < 2 ^ 64 := by
    rw [maxNumber]
    omega
  have hread : ∀ digits, (digits? digits).filter (· ≤ maxNumber) = some n ↔
      digits ≠ [] ∧ (∀ c ∈ digits, '0' ≤ c ∧ c ≤ '9') ∧
        Nat.ofDigits 10 (digits.reverse.map digitValue) = n ∧ n < 2 ^ 64 := by
    intro digits
    rw [Option.filter_eq_some_iff, digits?_eq_some_iff, decide_eq_true_iff, hrange, and_assoc,
      and_assoc]
  unfold number? IsNumber
  dsimp only
  split
  · next digits =>
    rw [hread]
    constructor
    · exact fun h => ⟨digits, Or.inr rfl, h⟩
    · rintro ⟨digits', rfl | hsigned, hne, hdigits, hvalue⟩
      · -- A plus sign is no digit.
        exact absurd (hdigits '+' List.mem_cons_self).1 (by decide)
      · obtain ⟨-, rfl⟩ := List.cons.inj hsigned
        exact ⟨hne, hdigits, hvalue⟩
  · next hunsigned =>
    rw [hread]
    constructor
    · exact fun h => ⟨cs, Or.inl rfl, h⟩
    · rintro ⟨digits, rfl | hsigned, h⟩
      · exact h
      · exact absurd hsigned (hunsigned digits)

/-- A number that a text is has at most 64 bits. -/
theorem IsNumber.le_maxNumber {cs : List Char} {n : Nat} (h : IsNumber cs n) : n ≤ maxNumber :=
  number?_le (number?_eq_some_iff.2 h)

/-- A text that is no number is not read as one. -/
theorem number?_eq_none {cs : List Char} (h : ∀ n, ¬ IsNumber cs n) : number? cs = none := by
  cases hread : number? cs with
  | none => rfl
  | some n => exact absurd (number?_eq_some_iff.1 hread) (h n)

/-! ## Bytes -/

/-- Lists of bytes are ordered as in a dictionary. -/
theorem bytesLe_iff {a b : List UInt8} : bytesLe a b = true ↔ a ≤ b := by
  induction a generalizing b with
  | nil => simp [bytesLe]
  | cons x a ih =>
    cases b with
    | nil => simp [bytesLe]
    | cons y b =>
      rw [List.cons_le_cons_iff, bytesLe, UInt8.lt_iff_toNat_lt, ← UInt8.toNat_inj, ← ih]
      rcases Nat.lt_trichotomy x.toNat y.toNat with h | h | h
      · simp [h]
      · simp [h]
      · have hnot : ¬ x.toNat < y.toNat := by omega
        have hne : x.toNat ≠ y.toNat := by omega
        simp [h, hnot, hne]

/-! ## Groups -/

/-- The marks of the two groups of ports that are ordered by number. -/
def PortGroup.mark? : PortGroup → Option (List Char)
  | acm => some "ttyACM".toList
  | usb => some "ttyUSB".toList
  | rest => none

/-- `Marked base` says that the last part of a name begins with one of the two marks. -/
def Marked (base : List Char) : Prop :=
  "ttyACM".toList <+: base ∨ "ttyUSB".toList <+: base

namespace SortKey

/-- A key comes before another, or is tied with it, by group, then by number, then by bytes. -/
theorem le_iff {a b : SortKey} :
    a.le b = true ↔
      a.group.rank < b.group.rank ∨
        a.group.rank = b.group.rank ∧
          (a.number < b.number ∨ a.number = b.number ∧ bytesLe a.base b.base = true) := by
  rw [le]
  rcases Nat.lt_trichotomy a.group.rank b.group.rank with h | h | h
  · simp [h]
  · rcases Nat.lt_trichotomy a.number b.number with hn | hn | hn
    · simp [h, hn]
    · simp [h, hn]
    · have hnot : ¬ a.number < b.number := by omega
      have hne : a.number ≠ b.number := by omega
      simp [h, hn, hnot, hne]
  · have hnot : ¬ a.group.rank < b.group.rank := by omega
    have hne : a.group.rank ≠ b.group.rank := by omega
    simp [h, hnot, hne]

section OfName

variable {group : PortGroup} {mark suffix : List Char} {name : String}

/-- The key of a port with a mark has its group and the number after the mark. -/
theorem ofName_of_mark (hmark : group.mark? = some mark)
    (hbase : baseName name.toList = mark ++ suffix) :
    ofName name
      = ⟨group, (number? suffix).getD maxNumber, utf8 (String.ofList (mark ++ suffix))⟩ := by
  have hgroup : PortGroup.ofBase (mark ++ suffix) = (group, suffix) := by
    unfold PortGroup.ofBase
    cases group with
    | acm =>
      obtain rfl := Option.some.inj hmark
      rw [List.isPrefixOf?_eq_some_iff_append_eq.2 rfl]
    | usb =>
      obtain rfl := Option.some.inj hmark
      have hnot : "ttyACM".toList.isPrefixOf? ("ttyUSB".toList ++ suffix) = none := rfl
      rw [hnot, List.isPrefixOf?_eq_some_iff_append_eq.2 rfl]
    | rest => cases hmark
  rw [ofName, hbase, hgroup]
  cases group with
  | acm => rfl
  | usb => rfl
  | rest => cases hmark

/-- The key of a port without a mark has no number. -/
theorem ofName_of_unmarked (h : ¬ Marked (baseName name.toList)) :
    ofName name = ⟨.rest, 0, utf8 (String.ofList (baseName name.toList))⟩ := by
  obtain ⟨suffix, hgroup⟩ := PortGroup.ofBase_eq_rest_iff.2 h
  rw [ofName, hgroup]

/-- A port has the group of the mark that begins the last part of its name. -/
theorem group_ofName_eq_iff (hmark : group.mark? = some mark) :
    (ofName name).group = group ↔ mark <+: baseName name.toList := by
  constructor
  · rintro rfl
    by_contra hnot
    have hother : ∀ (other : PortGroup) mark', other.mark? = some mark' →
        ¬ mark' <+: baseName name.toList := by
      rintro other mark' hmark' ⟨suffix, hbase⟩
      rw [ofName_of_mark hmark' hbase.symm] at hmark
      obtain rfl := Option.some.inj (hmark'.symm.trans hmark)
      exact hnot ⟨suffix, hbase⟩
    have hunmarked : ¬ Marked (baseName name.toList) := by
      rintro (hacm | husb)
      · exact hother .acm _ rfl hacm
      · exact hother .usb _ rfl husb
    rw [ofName_of_unmarked hunmarked] at hmark
    cases hmark
  · rintro ⟨suffix, hbase⟩
    rw [ofName_of_mark hmark hbase.symm]

end OfName

end SortKey

/-! ## The order of ports -/

/-- `Precedes a b` says of the last parts of two names that a listing may have the port of the first
before that of the second. -/
structure Precedes (a b : List Char) : Prop where
  /-- Before a port of the first group there are none of the others. -/
  acm : "ttyACM".toList <+: b → "ttyACM".toList <+: a
  /-- Before a port of the second group there are none of the third. -/
  usb : "ttyUSB".toList <+: b → "ttyACM".toList <+: a ∨ "ttyUSB".toList <+: a
  /-- The numbers within a group never decrease. -/
  numbers : ∀ {group : PortGroup} {mark s t : List Char}, group.mark? = some mark →
    a = mark ++ s → b = mark ++ t → ∀ {m n}, IsNumber s m → IsNumber t n → m ≤ n
  /-- After a port without a number there is none with a number in its group, except the largest
  number there is. -/
  unnumbered : ∀ {group : PortGroup} {mark s t : List Char}, group.mark? = some mark →
    a = mark ++ s → b = mark ++ t → (∀ m, ¬ IsNumber s m) → ∀ {n}, IsNumber t n →
      2 ^ 64 - 1 ≤ n
  /-- Ports of a group with the same number, or both without one, are ordered by bytes. -/
  tied : ∀ {group : PortGroup} {mark s t : List Char}, group.mark? = some mark →
    a = mark ++ s → b = mark ++ t → (∀ n, IsNumber s n ↔ IsNumber t n) →
      utf8 (String.ofList a) ≤ utf8 (String.ofList b)
  /-- The ports of the last group are ordered by bytes. -/
  others : ¬ Marked a → ¬ Marked b → utf8 (String.ofList a) ≤ utf8 (String.ofList b)

/-- Texts that are the same numbers have the same place among those of a group. -/
theorem number?_congr {s t : List Char} (h : ∀ n, IsNumber s n ↔ IsNumber t n) :
    number? s = number? t := by
  apply Option.ext
  intro n
  rw [number?_eq_some_iff, number?_eq_some_iff]
  exact h n

section Precedes

variable {p q : Port}

/-- Of two ports of a group the one with the smaller number comes first, and if they are tied, the
one that is first by bytes. -/
theorem Port.number_le_of_le (h : p.le q = true) {group : PortGroup} {mark s t : List Char}
    (hmark : group.mark? = some mark) (hp : p.base = mark ++ s) (hq : q.base = mark ++ t) :
    (number? s).getD maxNumber < (number? t).getD maxNumber ∨
      (number? s).getD maxNumber = (number? t).getD maxNumber ∧
        utf8 (String.ofList p.base) ≤ utf8 (String.ofList q.base) := by
  rw [Port.le, SortKey.ofName_of_mark hmark hp, SortKey.ofName_of_mark hmark hq,
    SortKey.le_iff] at h
  rw [hp, hq, ← bytesLe_iff]
  rcases h with hrank | ⟨-, horder⟩
  · exact absurd hrank (Nat.lt_irrefl _)
  · exact horder

/-- Ports that are ordered by their keys are ordered by the last parts of their names. -/
theorem precedes_of_le (h : p.le q = true) : Precedes p.base q.base := by
  have hrank : (SortKey.ofName p.name).group.rank ≤ (SortKey.ofName q.name).group.rank := by
    rcases SortKey.le_iff.1 h with hless | ⟨hsame, -⟩
    · exact Nat.le_of_lt hless
    · exact Nat.le_of_eq hsame
  have hacm := fun name => @SortKey.group_ofName_eq_iff .acm _ name rfl
  have husb := fun name => @SortKey.group_ofName_eq_iff .usb _ name rfl
  constructor
  · intro hq
    rw [(hacm q.name).2 hq] at hrank
    refine (hacm p.name).1 (SortKey.rank_inj ?_)
    exact Nat.le_zero.1 hrank
  · intro hq
    rw [(husb q.name).2 hq] at hrank
    rcases Nat.lt_or_eq_of_le hrank with hfirst | hsecond
    · exact Or.inl ((hacm p.name).1 (SortKey.rank_inj (Nat.lt_one_iff.1 hfirst)))
    · exact Or.inr ((husb p.name).1 (SortKey.rank_inj hsecond))
  · intro group mark s t hmark hp hq m n hm hn
    have horder := Port.number_le_of_le h hmark hp hq
    rw [number?_eq_some_iff.2 hm, number?_eq_some_iff.2 hn] at horder
    rcases horder with hless | ⟨hsame, -⟩
    · exact Nat.le_of_lt hless
    · exact Nat.le_of_eq hsame
  · intro group mark s t hmark hp hq hnone n hn
    have horder := Port.number_le_of_le h hmark hp hq
    have hlargest := hn.le_maxNumber
    -- A port without a number counts as having the largest one.
    rw [number?_eq_none hnone, number?_eq_some_iff.2 hn] at horder
    simp only [Option.getD_none, Option.getD_some, maxNumber] at horder hlargest
    omega
  · intro group mark s t hmark hp hq hsame
    rcases Port.number_le_of_le h hmark hp hq with hless | ⟨-, hbytes⟩
    · rw [number?_congr hsame] at hless
      exact absurd hless (Nat.lt_irrefl _)
    · exact hbytes
  · intro hp hq
    rw [Port.le, SortKey.ofName_of_unmarked hp, SortKey.ofName_of_unmarked hq,
      SortKey.le_iff] at h
    rcases h with hless | ⟨-, hless | ⟨-, hbytes⟩⟩
    · exact absurd hless (Nat.lt_irrefl _)
    · exact absurd hless (Nat.lt_irrefl _)
    · exact bytesLe_iff.1 hbytes

end Precedes

namespace Inventory

/-- In the listing of a run every port may come before each of those after it. -/
theorem listing_precedes (i : Inventory) :
    i.listing.Pairwise fun p q => Precedes p.base q.base :=
  (pairwise_arrange _).imp precedes_of_le

/-- **The order of a listing.**  Whatever the enumeration says, the device directory holds, and the
order is in which the entries are handed out, every port of a listing may come before each of those
after it, by the part of its name after the last slash.  Two ports may come before each other only
if these parts are the same. -/
theorem listing_in_order (i : Inventory) {ports : List Port} (h : i.Lists ports) :
    (∀ p ∈ ports, IsBase p.name.toList p.base) ∧
      ports.Pairwise (fun p q => Precedes p.base q.base) ∧
      ∀ p q : Port, p.le q = true ∧ q.le p = true ↔ p.base = q.base := by
  obtain ⟨handedOut, -, rfl⟩ := h
  refine ⟨?_, ?_, ?_⟩
  · exact fun p _ => isBase_iff.2 rfl
  · exact (pairwise_arrange handedOut).imp precedes_of_le
  · intro p q
    constructor
    · rintro ⟨hpq, hqp⟩
      exact Port.base_eq_of_le_of_le hpq hqp
    · intro hbase
      exact ⟨Port.le_of_base_eq hbase, Port.le_of_base_eq hbase.symm⟩

/-- A machine with three ports, in no order. -/
def mixedUp : Inventory :=
  ⟨.ok [⟨"/dev/ttyACM10", .unknown⟩, ⟨"COM3", .unknown⟩, ⟨"ttyACM007", .unknown⟩], none⟩

/-- Seven comes before ten although a one comes before a seven, and ports with a mark come before
those without. -/
theorem ordered_mixedUp :
    let ports : List Port := [.bare "ttyACM007", .bare "/dev/ttyACM10", .bare "COM3"]
    mixedUp.Lists ports ∧ ports.Pairwise fun p q => Precedes p.base q.base := by
  have hlists : mixedUp.Lists [.bare "ttyACM007", .bare "/dev/ttyACM10", .bare "COM3"] := by
    refine ⟨[.bare "ttyACM007", .bare "/dev/ttyACM10", .bare "COM3"], by decide, ?_⟩
    exact List.mergeSort_of_pairwise (by decide +kernel)
  exact ⟨hlists, (listing_in_order mixedUp hlists).2.1⟩

end Inventory

end VersionProbe
