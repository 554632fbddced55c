/-
# Groups of a pattern

What stands after an opening parenthesis: the name of the group, or flags, which hold for the group
or, if it is closed at once, for the rest of the group around it.  There are no groups that look
ahead or back.
-/
import VersionProbe.Pattern.Mode
import VersionProbe.Text.Alphanumeric

namespace VersionProbe.Pattern

/-- The beginning of a group. -/
inductive Opening
  /-- Flags alone, for the rest of the group around them. -/
  | flags (change : FlagChange)
  /-- A group that may have a name, with flags of its own. -/
  | group (name : Option (List Char)) (change : FlagChange)

/-- Whether a text can be the name of a group. -/
def isGroupName : List Char → Bool
  | [] => false
  | c :: cs =>
    (c = '_' || Text.isAlphabetic c) &&
      cs.all fun d => d = '_' || d = '.' || d = '[' || d = ']' || Text.isAlphanumeric d

/-- The beginning of a group after the sign that its name follows, and what stands in the group. -/
def readName (cs : List Char) : Option (Opening × List Char) :=
  let name := cs.takeWhile (· ≠ '>')
  match cs.drop name.length with
  | [] => none
  | _ :: rest => if isGroupName name then some (.group (some name) .unchanged, rest) else none

/-- The beginning of a group after a question mark, and what follows it.  Flags alone have to be
stated. -/
def readFlags (cs : List Char) : Option (Opening × List Char) := do
  let letters := cs.takeWhile fun c => c ≠ ':' && c ≠ ')'
  let change ← FlagChange.ofText? letters
  match cs.drop letters.length with
  | [] => none
  | ':' :: rest => some (.group none change, rest)
  | _ :: rest => if letters.isEmpty then none else some (.flags change, rest)

/-- The beginning of a group after its parenthesis, and what follows it. -/
def readOpening : List Char → Option (Opening × List Char)
  | '?' :: 'P' :: '<' :: rest => readName rest
  | '?' :: '<' :: rest => readName rest
  | '?' :: rest => readFlags rest
  | rest => some (.group none .unchanged, rest)

end VersionProbe.Pattern
