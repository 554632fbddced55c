/-
# The flags of a pattern

Flags, as in `(?i)` and `(?x-u:...)`, change how the rest of a group is read.  Three of them decide
whether a pattern can be used and are kept in its mode: whether it is about characters or about
bytes, whether case is ignored, and whether blanks and comments may stand between its parts.
-/
import VersionProbe.Text.Blank

namespace VersionProbe.Pattern

/-! ## Flags -/

/-- A flag of a pattern. -/
inductive Flag
  | ignoreCase
  | multiLine
  | dotMatchesNewline
  | swapGreed
  | unicode
  | crlf
  | verbose
deriving DecidableEq

/-- The flag that a letter stands for. -/
def Flag.ofChar? : Char → Option Flag
  | 'i' => some .ignoreCase
  | 'm' => some .multiLine
  | 's' => some .dotMatchesNewline
  | 'U' => some .swapGreed
  | 'u' => some .unicode
  | 'R' => some .crlf
  | 'x' => some .verbose
  | _ => none

/-- The flags that a place in a pattern turns on and off. -/
structure FlagChange where
  on : List Flag
  off : List Flag

namespace FlagChange

/-- No change. -/
def unchanged : FlagChange := ⟨[], []⟩

/-- The change that letters state: those before the minus sign are turned on and those after it off.
No flag may occur twice, and a minus sign has to have a letter after it. -/
def ofText? (cs : List Char) : Option FlagChange := do
  let letters := cs.takeWhile (· ≠ '-')
  let on ← letters.mapM Flag.ofChar?
  match cs.drop letters.length with
  | [] => if on.Nodup then some ⟨on, []⟩ else none
  | ['-'] => none
  | _ :: more =>
    let off ← more.mapM Flag.ofChar?
    if (on ++ off).Nodup then some ⟨on, off⟩ else none

/-- Whether a flag is on after the change. -/
def after (change : FlagChange) (flag : Flag) (before : Bool) : Bool :=
  change.on.contains flag || before && !change.off.contains flag

end FlagChange

/-! ## Modes -/

/-- The flags in force at some place of a pattern. -/
structure Mode where
  unicode : Bool
  ignoreCase : Bool
  verbose : Bool
deriving DecidableEq

namespace Mode

/-- A pattern is about characters at first, minds their case, and has no comments. -/
def initial : Mode := ⟨true, false, false⟩

/-- The mode after a change of flags. -/
def apply (mode : Mode) (change : FlagChange) : Mode :=
  ⟨change.after .unicode mode.unicode, change.after .ignoreCase mode.ignoreCase,
    change.after .verbose mode.verbose⟩

/-! ## Blanks and comments -/

/-- What is left of a text after the blanks and comments at its beginning, where a comment reaches
from a number sign to the end of the line.  The text may begin inside a comment. -/
def dropComments : (inComment : Bool) → List Char → List Char
  | _, [] => []
  | true, c :: cs => dropComments (c ≠ '\n') cs
  | false, c :: cs =>
    if Text.isBlank c then dropComments false cs
    else if c = '#' then dropComments true cs
    else c :: cs

/-- What is left of a text after what may be skipped in a mode. -/
def skip (mode : Mode) (cs : List Char) : List Char :=
  if mode.verbose then dropComments false cs else cs

/-- The character that decides whether a hyphen before a text makes a range.  Where comments are
allowed that is the first one besides blanks and one number sign, or else the first one of all. -/
def peek? (mode : Mode) (cs : List Char) : Option Char :=
  if mode.verbose then
    let seen := match cs.dropWhile Text.isBlank with
      | '#' :: rest => rest.dropWhile Text.isBlank
      | rest => rest
    seen.head?.or cs.head?
  else cs.head?

end Mode

end VersionProbe.Pattern
