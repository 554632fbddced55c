/-
# Hexadecimal text

Replies, version summaries and log lines show bytes and two-byte words in lower-case hexadecimal
of a fixed width.  This file holds the digits, the line format in which a reply is printed, the
list format of the log, and the reading of both back into bytes:

* `readLine_lineChars` : a printed line reads back as the bytes it was printed from.
* `readListing_listing` : a list of bytes reads back as these bytes.
-/

namespace VersionProbe.Hex

/-! ## Digits -/

/-- The two digits of a byte, high half first. -/
def byteDigits (b : UInt8) : List Char :=
  [Nat.digitChar (b.toNat / 16), Nat.digitChar (b.toNat % 16)]

/-- The four digits of a word, highest first. -/
def wordDigits (w : UInt16) : List Char :=
  [Nat.digitChar (w.toNat / 4096), Nat.digitChar (w.toNat / 256 % 16),
    Nat.digitChar (w.toNat / 16 % 16), Nat.digitChar (w.toNat % 16)]

/-- The number below sixteen that a lower-case digit stands for. -/
def digitValue? (c : Char) : Option Nat :=
  if '0' ≤ c ∧ c ≤ '9' then some (c.toNat - 48)
  else if 'a' ≤ c ∧ c ≤ 'f' then some (c.toNat - 87)
  else none

/-- The byte that two digits stand for, high half first. -/
def byteValue? (high low : Char) : Option UInt8 := do
  let h ← digitValue? high
  let l ← digitValue? low
  return UInt8.ofNat (16 * h + l)

/-- Every number below sixteen is the value of its digit. -/
theorem digitValue?_digitChar {n : Nat} (h : n < 16) :
    digitValue? (Nat.digitChar n) = some n := by
  have key : ∀ m : Fin 16, digitValue? (Nat.digitChar m) = some m.val := by decide
  exact key ⟨n, h⟩

/-- The two digits of a byte read back as that byte. -/
theorem byteValue?_digits (b : UInt8) :
    byteValue? (Nat.digitChar (b.toNat / 16)) (Nat.digitChar (b.toNat % 16)) = some b := by
  have hb : b.toNat < 256 := b.toNat_lt
  rw [byteValue?, digitValue?_digitChar (by omega), digitValue?_digitChar (by omega)]
  have halves : 16 * (b.toNat / 16) + b.toNat % 16 = b.toNat := by omega
  change some (UInt8.ofNat (16 * (b.toNat / 16) + b.toNat % 16)) = some b
  rw [halves, UInt8.ofNat_toNat]

/-! ## Text -/

/-- A byte in two digits. -/
def byte (b : UInt8) : String :=
  String.ofList (byteDigits b)

/-- A word in four digits. -/
def word (w : UInt16) : String :=
  String.ofList (wordDigits w)

/-- The characters of a printed reply: before each byte a blank, then its two digits. -/
def lineChars (bytes : List UInt8) : List Char :=
  bytes.flatMap fun b => ' ' :: byteDigits b

/-- A reply on one line; no bytes give the empty text. -/
def line (bytes : List UInt8) : String :=
  String.ofList (lineChars bytes)

/-- Bytes as the log lists them, in brackets and separated by a comma and a blank. -/
def listing (bytes : List UInt8) : String :=
  "[" ++ ", ".intercalate (bytes.map byte) ++ "]"

/-- The bytes of a printed line, if every one stands as a blank and two lower-case digits. -/
def readLine : List Char → Option (List UInt8)
  | [] => some []
  | ' ' :: high :: low :: rest => do
    let b ← byteValue? high low
    let bytes ← readLine rest
    return b :: bytes
  | _ => none

/-- The line of two runs of bytes is the two lines one after the other. -/
theorem lineChars_append (a b : List UInt8) : lineChars (a ++ b) = lineChars a ++ lineChars b :=
  List.flatMap_append

/-- The line of a first byte and the others. -/
theorem lineChars_cons (b : UInt8) (bytes : List UInt8) :
    lineChars (b :: bytes)
      = ' ' :: Nat.digitChar (b.toNat / 16) :: Nat.digitChar (b.toNat % 16) :: lineChars bytes :=
  rfl

/-- A printed line reads back as its bytes. -/
theorem readLine_lineChars (bytes : List UInt8) : readLine (lineChars bytes) = some bytes := by
  induction bytes with
  | nil => rfl
  | cons b bytes ih =>
    rw [lineChars_cons, readLine, byteValue?_digits, ih]
    rfl

/-! ## Lists -/

/-- The bytes of a list behind its opening bracket, if every one stands as two lower-case digits. -/
def readItems : List Char → Option (List UInt8)
  | [high, low, ']'] => (byteValue? high low).map ([·])
  | high :: low :: ',' :: ' ' :: rest => do
    let b ← byteValue? high low
    let bytes ← readItems rest
    return b :: bytes
  | _ => none

/-- The bytes of a list as the log has it. -/
def readListing : List Char → Option (List UInt8)
  | '[' :: rest => if rest = [']'] then some [] else readItems rest
  | _ => none

/-- The characters of a list of bytes. -/
theorem toList_listing (bytes : List UInt8) :
    (listing bytes).toList = '[' :: ((", ".intercalate (bytes.map byte)).toList ++ [']']) := by
  unfold listing
  rw [String.toList_append, String.toList_append, List.append_assoc]
  rfl

/-- The characters of the items of a list with another byte in front. -/
theorem toList_items_cons (b b' : UInt8) (bytes : List UInt8) :
    (", ".intercalate ((b :: b' :: bytes).map byte)).toList
      = Nat.digitChar (b.toNat / 16) :: Nat.digitChar (b.toNat % 16) :: ',' :: ' ' ::
        (", ".intercalate ((b' :: bytes).map byte)).toList := by
  rw [List.map_cons, List.map_cons, String.intercalate_cons_cons, String.toList_append,
    String.toList_append, byte, String.toList_ofList]
  rfl

/-- The items of a list read back as the bytes. -/
theorem readItems_items (b : UInt8) (bytes : List UInt8) :
    readItems ((", ".intercalate ((b :: bytes).map byte)).toList ++ [']']) = some (b :: bytes) := by
  induction bytes generalizing b with
  | nil =>
    rw [List.map_singleton, String.intercalate_singleton, byte, String.toList_ofList]
    show (byteValue? _ _).map _ = _
    rw [byteValue?_digits]
    rfl
  | cons b' bytes ih =>
    rw [toList_items_cons]
    show (byteValue? _ _).bind (fun _ => (readItems (_ ++ [']'])).bind _) = _
    rw [byteValue?_digits, Option.bind_some, ih]
    rfl

/-- A list of bytes reads back as these bytes. -/
theorem readListing_listing (bytes : List UInt8) :
    readListing (listing bytes).toList = some bytes := by
  rw [toList_listing, readListing]
  cases bytes with
  | nil => rfl
  | cons b bytes =>
    rw [if_neg]
    · exact readItems_items b bytes
    · -- Behind the bracket of an empty list there is nothing that could be read as items.
      intro hempty
      have hread := readItems_items b bytes
      rw [hempty] at hread
      cases hread

end VersionProbe.Hex
