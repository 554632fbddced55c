/-
# Reading patterns

A pattern is read from its text part by part.  Parts follow one another in branches, which bars
separate, and branches stand in groups; the whole pattern is read like the inside of a group.
-/
import VersionProbe.Pattern.Group
import VersionProbe.Pattern.Tree

namespace VersionProbe.Pattern

/-- A group whose parenthesis is open: the mode of its next part, the branches before the last bar
and the parts since then, latest first. -/
structure OpenGroup where
  mode : Mode
  branches : List Pattern
  parts : List Pattern

namespace OpenGroup

/-- A group before its first part. -/
def start (mode : Mode) : OpenGroup := ⟨mode, [], []⟩

/-- The group with one more part. -/
def add (g : OpenGroup) (part : Pattern) : OpenGroup :=
  ⟨g.mode, g.branches, part :: g.parts⟩

/-- The group after a change of flags. -/
def apply (g : OpenGroup) (change : FlagChange) : OpenGroup :=
  ⟨g.mode.apply change, g.branches, .flags :: g.parts⟩

/-- The group after a bar. -/
def branch (g : OpenGroup) : OpenGroup :=
  ⟨g.mode, ofParts g.parts.reverse :: g.branches, []⟩

/-- The group with its last part repeated. -/
def repeatLast? (g : OpenGroup) : Option OpenGroup :=
  match g.parts with
  | [] => none
  | part :: parts =>
    if part.isRepeatable then some ⟨g.mode, g.branches, .repetition part :: parts⟩ else none

/-- What stands in the group when it is closed. -/
def finish (g : OpenGroup) : Pattern :=
  if g.branches.isEmpty then ofParts g.parts.reverse else .choice g.branch.branches.reverse

end OpenGroup

/-- Whether a character repeats the part before it. -/
def isRepeater (c : Char) : Bool :=
  c = '*' || c = '+' || c = '?'

/-- What follows a repetition, which a question mark makes as short as possible. -/
def dropLazy : List Char → List Char
  | '?' :: rest => rest
  | rest => rest

/-- The rest of a group up to its closing parenthesis or the end of the text, and what is left from
there on.  How often a part is repeated cannot be stated as a number, so an opening brace never
stands without a backslash.  The fuel is used up by one with each part. -/
def readGroup : (fuel : Nat) → OpenGroup → List Char → Option (Pattern × List Char)
  | 0, _, _ => none
  | fuel + 1, g, cs =>
    match g.mode.skip cs with
    | [] => some (g.finish, [])
    | ')' :: rest => some (g.finish, ')' :: rest)
    | '|' :: rest => readGroup fuel g.branch rest
    | '\x7b' :: _ => none
    | '(' :: rest =>
      match readOpening (g.mode.skip rest) with
      | some (.flags change, rest) => readGroup fuel (g.apply change) rest
      | some (.group name change, inside) =>
        match readGroup fuel (.start (g.mode.apply change)) inside with
        | some (inner, ')' :: rest) => readGroup fuel (g.add (.group name inner)) rest
        | _ => none
      | none => none
    | '[' :: rest =>
      match CharSet.read g.mode rest with
      | some (s, rest) => readGroup fuel (g.add (.charSet g.mode s)) rest
      | none => none
    | '\\' :: rest =>
      match Symbol.readEscaped g.mode rest with
      | some (s, rest) => readGroup fuel (g.add (.symbol g.mode s)) rest
      | none => none
    | c :: rest =>
      if isRepeater c then
        match g.repeatLast? with
        | some repeated => readGroup fuel repeated (dropLazy rest)
        | none => none
      else readGroup fuel (g.add (.symbol g.mode (Symbol.ofChar c))) rest

/-- The pattern that a text is. -/
def ofText? (cs : List Char) : Option Pattern :=
  match readGroup (cs.length + 1) (.start .initial) cs with
  | some (p, []) => some p
  | _ => none

/-- Whether a text is a pattern that can be used. -/
def isPattern (cs : List Char) : Bool :=
  match ofText? cs with
  | none => false
  | some p => p.isSound

end VersionProbe.Pattern
