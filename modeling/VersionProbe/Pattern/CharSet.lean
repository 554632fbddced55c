/-
# Sets of characters

Brackets in a pattern hold a set of characters: single ones and ranges, named classes such as
`[:alpha:]`, further sets in brackets, and the operators `&&`, `--` and `~~` between them.
-/
import VersionProbe.Pattern.Symbol

namespace VersionProbe.Pattern

/-- A set of characters, as it is written.  Of named classes and operators only what decides about
their use is kept. -/
inductive CharSet
  | empty
  | literal (c : Char)
  | range (low high : Char)
  /-- A named class, or what is not in it. -/
  | named (negated : Bool)
  /-- A class of one letter after a backslash, or what is not in it. -/
  | shorthand (negated : Bool)
  /-- A set in brackets, or what is not in it. -/
  | bracket (negated : Bool) (inner : CharSet)
  | union (members : List CharSet)
  | operation (left right : CharSet)

namespace CharSet

/-! ## Depth and use -/

mutual

/-- How deeply a set is nested: brackets, unions and operators count. -/
def depth : CharSet → Nat
  | bracket _ inner => depth inner + 1
  | union members => deepest members + 1
  | operation left right => max (depth left) (depth right) + 1
  | _ => 0

/-- The depth of the deepest of several sets. -/
def deepest : List CharSet → Nat
  | [] => 0
  | s :: rest => max (depth s) (deepest rest)

end

/-- Whether a character can be a member of a set in a mode.  Sets of bytes hold ASCII characters. -/
def admitsChar (mode : Mode) (c : Char) : Bool :=
  if mode.unicode then !mode.ignoreCase else c.toNat < 0x80

mutual

/-- Whether a set can be used in a mode.  What is not in a set of bytes need not be a character. -/
def isUsable (mode : Mode) : CharSet → Bool
  | empty => true
  | literal c => admitsChar mode c
  | range low high => admitsChar mode low && admitsChar mode high
  | named negated => if mode.unicode then !mode.ignoreCase else !negated
  | shorthand negated => !mode.unicode && !negated
  | bracket negated inner => (mode.unicode || !negated) && isUsable mode inner
  | union members => allUsable mode members
  | operation left right => isUsable mode left && isUsable mode right

/-- Whether all of several sets can be used in a mode. -/
def allUsable (mode : Mode) : List CharSet → Bool
  | [] => true
  | s :: rest => isUsable mode s && allUsable mode rest

end

/-- The set of several members; a single member is not a union. -/
def ofMembers : List CharSet → CharSet
  | [] => empty
  | [s] => s
  | members => union members

/-! ## Members -/

/-- The names of the named classes. -/
def classNames : List String :=
  ["alnum", "alpha", "ascii", "blank", "cntrl", "digit", "graph", "lower", "print", "punct",
    "space", "upper", "word", "xdigit"]

/-- A named class after its opening bracket, as in `[:alpha:]` and `[:^alpha:]`, and what follows
it. -/
def readNamed : List Char → Option (CharSet × List Char)
  | ':' :: cs =>
    let negated := cs.head? = some '^'
    let name := (if negated then cs.drop 1 else cs).takeWhile (· ≠ ':')
    match cs.drop (name.length + if negated then 1 else 0) with
    | ':' :: ']' :: rest =>
      if classNames.contains (String.ofList name) then some (named negated, rest) else none
    | _ => none
  | _ => none

/-- The set that a symbol stands for among members. -/
def ofSymbol? : Symbol → Option CharSet
  | .literal c _ => some (literal c)
  | .shorthand negated => some (shorthand negated)
  | _ => none

/-- The range between two symbols, which are characters in their order. -/
def rangeOf? : Symbol → Symbol → Option CharSet
  | .literal low _, .literal high _ => if low ≤ high then some (range low high) else none
  | _, _ => none

/-- A symbol among members, and what follows it. -/
def readSymbol (mode : Mode) : List Char → Option (Symbol × List Char)
  | [] => none
  | '\\' :: rest => Symbol.readEscaped mode rest
  | c :: rest => some (.literal c false, rest)

/-- A symbol or a range, and what follows it.  A hyphen makes a range unless it is the last member
or one of two. -/
def readRange (mode : Mode) (cs : List Char) : Option (CharSet × List Char) := do
  let (low, rest) ← readSymbol mode cs
  match mode.skip rest with
  | '-' :: after =>
    if mode.peek? after = some ']' || mode.peek? after = some '-' then
      (ofSymbol? low).map (·, '-' :: after)
    else
      let (high, rest) ← readSymbol mode (mode.skip after)
      (rangeOf? low high).map (·, rest)
  | rest => (ofSymbol? low).map (·, rest)

/-! ## Sets in brackets -/

/-- A set whose brackets are open: what stands before its last operator, the members since then,
latest first, and whether it has had nothing but hyphens so far. -/
structure Unfinished where
  left : Option CharSet
  members : List CharSet
  atStart : Bool

namespace Unfinished

/-- A set before its first member. -/
def start : Unfinished := ⟨none, [], true⟩

/-- The set with one more member. -/
def add (s : Unfinished) (member : CharSet) : Unfinished :=
  ⟨s.left, member :: s.members, false⟩

/-- The set with a hyphen at its beginning. -/
def addHyphen (s : Unfinished) : Unfinished :=
  ⟨s.left, literal '-' :: s.members, s.atStart⟩

/-- The set when its brackets are closed.  Operators apply from left to right. -/
def finish (s : Unfinished) : CharSet :=
  match s.left with
  | none => ofMembers s.members.reverse
  | some left => operation left (ofMembers s.members.reverse)

/-- The set after an operator. -/
def operate (s : Unfinished) : Unfinished :=
  ⟨some s.finish, [], false⟩

end Unfinished

/-- Whether a character that stands twice is an operator. -/
def isOperator (c : Char) : Bool :=
  c = '&' || c = '-' || c = '~'

/-- Whether the set after an opening bracket is negated, and where its members begin. -/
def readNegation (mode : Mode) (cs : List Char) : Bool × List Char :=
  match mode.skip cs with
  | '^' :: rest => (true, rest)
  | rest => (false, rest)

/-- The remaining members of a set up to its closing bracket, and what follows it.  A closing
bracket before all members is a member.  The fuel is used up by one with each member. -/
def readMembers (mode : Mode) : (fuel : Nat) → Unfinished → List Char → Option (CharSet × List Char)
  | 0, _, _ => none
  | fuel + 1, s, cs =>
    match mode.skip cs with
    | [] => none
    | c :: rest =>
      if s.atStart && c = '-' then readMembers mode fuel s.addHyphen rest
      else if s.atStart && s.members.isEmpty && c = ']' then
        readMembers mode fuel (s.add (literal ']')) rest
      else if c = ']' then some (s.finish, rest)
      else if c = '[' then
        match readNamed rest with
        | some (member, rest) => readMembers mode fuel (s.add member) rest
        | none =>
          let (negated, inside) := readNegation mode rest
          match readMembers mode fuel .start inside with
          | some (inner, rest) => readMembers mode fuel (s.add (bracket negated inner)) rest
          | none => none
      else if isOperator c && rest.head? = some c then readMembers mode fuel s.operate (rest.drop 1)
      else
        match readRange mode (c :: rest) with
        | some (member, rest) => readMembers mode fuel (s.add member) rest
        | none => none

/-- The set after an opening bracket, and what follows its closing one. -/
def read (mode : Mode) (cs : List Char) : Option (CharSet × List Char) :=
  let (negated, inside) := readNegation mode cs
  (readMembers mode (inside.length + 1) .start inside).map fun (inner, rest) =>
    (bracket negated inner, rest)

end CharSet

end VersionProbe.Pattern
