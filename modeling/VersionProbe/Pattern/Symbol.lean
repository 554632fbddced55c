/-
# The symbols of a pattern

The smallest parts of a pattern: characters that stand for themselves, anchors, and the like.  Most
of them are a single character; others are written with a backslash.  No tables of Unicode are at
hand for patterns, so in patterns about characters there are no words, digits or blanks, and case
cannot be ignored; patterns about bytes may not match anything but whole characters.
-/
import VersionProbe.Pattern.Mode

namespace VersionProbe.Pattern

/-- A part of a pattern that has no parts. -/
inductive Symbol
  /-- A character that stands for itself, and whether it is written as the number of a byte. -/
  | literal (c : Char) (asByte : Bool)
  /-- Any character. -/
  | anyCharacter
  /-- The beginning or the end of a line or of the text. -/
  | anchor
  /-- A place at the edge of a word, or one that is not. -/
  | wordBoundary
  /-- A digit, a blank or a character of words, or one that is not. -/
  | shorthand (negated : Bool)
deriving DecidableEq

namespace Symbol

/-! ## Use -/

/-- Whether a symbol can be used in a mode. -/
def isUsable (mode : Mode) : Symbol → Bool
  | literal c asByte =>
    if mode.unicode then !mode.ignoreCase else !(asByte && 0x80 ≤ c.toNat)
  | anyCharacter => mode.unicode
  | anchor => true
  | wordBoundary => !mode.unicode
  | shorthand negated => !mode.unicode && !negated

/-! ## Writing -/

/-- The symbol that a character stands for without a backslash. -/
def ofChar (c : Char) : Symbol :=
  if c = '.' then anyCharacter
  else if c = '^' || c = '$' then anchor
  else literal c false

/-- The symbol that a character stands for after a backslash.  Characters of ASCII text that are
neither letters nor digits stand for themselves. -/
def ofEscaped? (c : Char) : Option Symbol :=
  match c with
  | 'a' => some (literal '\x07' false)
  | 'f' => some (literal '\x0c' false)
  | 'n' => some (literal '\n' false)
  | 'r' => some (literal '\r' false)
  | 't' => some (literal '\t' false)
  | 'v' => some (literal '\x0b' false)
  | 'A' | 'z' => some anchor
  | 'b' | 'B' | '<' | '>' => some wordBoundary
  | 'd' | 's' | 'w' => some (shorthand false)
  | 'D' | 'S' | 'W' => some (shorthand true)
  | _ => if c.toNat < 0x80 && !c.isAlphanum then some (literal c false) else none

/-- The number that a hexadecimal digit stands for, in either case. -/
def hexDigit? (c : Char) : Option Nat :=
  if c.isDigit then some (c.toNat - 48)
  else if 'a' ≤ c && c ≤ 'f' then some (c.toNat - 87)
  else if 'A' ≤ c && c ≤ 'F' then some (c.toNat - 55)
  else none

/-- The number in so many hexadecimal digits, of which some have been read, and what follows it. -/
def readHex (mode : Mode) : (count : Nat) → (read : Nat) → List Char → Option (Nat × List Char)
  | 0, n, cs => some (n, cs)
  | count + 1, n, cs =>
    match mode.skip cs with
    | [] => none
    | c :: rest => (hexDigit? c).bind fun d => readHex mode count (16 * n + d) rest

/-- The literal whose number stands in so many hexadecimal digits, and what follows it. -/
def readCoded (mode : Mode) (count : Nat) (cs : List Char) : Option (Symbol × List Char) := do
  let (n, rest) ← readHex mode count 0 cs
  if n.isValidChar then some (literal (Char.ofNat n) (count = 2), rest) else none

/-- The symbol whose text stands after a backslash, and what follows it. -/
def readEscaped (mode : Mode) : List Char → Option (Symbol × List Char)
  | [] => none
  | 'x' :: rest => readCoded mode 2 rest
  | 'u' :: rest => readCoded mode 4 rest
  | 'U' :: rest => readCoded mode 8 rest
  | c :: rest => (ofEscaped? c).map (·, rest)

end Symbol

end VersionProbe.Pattern
