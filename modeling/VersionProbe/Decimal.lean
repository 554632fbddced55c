/-
# Decimal numbers

How a number of at most 64 bits is read: ASCII digits and nothing else, save for one plus sign in
front of them.  Numbers in general may have a sign, a point and an exponent; of these it matters
only which texts they are.

* `number?_le` : a number that is read has at most 64 bits.
-/

namespace VersionProbe

/-- The number that decimal digits stand for, if there are digits and nothing else. -/
def digits? (cs : List Char) : Option Nat :=
  if cs.isEmpty then none
  else if cs.all Char.isDigit then some (cs.foldl (fun n c => 10 * n + (c.toNat - 48)) 0)
  else none

/-- The largest number of 64 bits. -/
def maxNumber : Nat := 18446744073709551615

/-- A number of at most 64 bits, in decimal digits that one plus sign may precede. -/
def number? (cs : List Char) : Option Nat :=
  let digits := match cs with
    | '+' :: rest => rest
    | _ => cs
  (digits? digits).filter (· ≤ maxNumber)

/-- A number that is read has at most 64 bits. -/
theorem number?_le {cs : List Char} {n : Nat} (h : number? cs = some n) : n ≤ maxNumber := by
  unfold number? at h
  exact of_decide_eq_true (Option.filter_eq_some_iff.1 h).2

/-! ## Numbers in general -/

/-- A text without the sign in front of it. -/
def dropSign : List Char → List Char
  | '+' :: rest => rest
  | '-' :: rest => rest
  | cs => cs

/-- Whether a text is digits with at most one point before, between or after them. -/
def isFraction (cs : List Char) : Bool :=
  let whole := cs.takeWhile Char.isDigit
  match cs.drop whole.length with
  | [] => !whole.isEmpty
  | '.' :: places => places.all Char.isDigit && !(whole.isEmpty && places.isEmpty)
  | _ => false

/-- Whether a text is an exponent after its letter, or nothing. -/
def isExponent : List Char → Bool
  | [] => true
  | _ :: power => (digits? (dropSign power)).isSome

/-- The words that count as numbers, in any case. -/
def numberWords : List String := ["inf", "infinity", "nan"]

/-- Whether a text is a number: digits that may have a sign, a point and an exponent, or a word for
what is too large or no number at all, which may have a sign too. -/
def isNumeral (cs : List Char) : Bool :=
  let size := dropSign cs
  let fraction := size.takeWhile fun c => c ≠ 'e' && c ≠ 'E'
  numberWords.contains (String.ofList (size.map Char.toLower)) ||
    isFraction fraction && isExponent (size.drop fraction.length)

end VersionProbe
