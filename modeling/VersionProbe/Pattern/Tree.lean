/-
# Patterns

A pattern is a tree of symbols, sets of characters, repetitions and groups.  It can be used if it is
not nested too deeply, names no two groups alike, and all its symbols and sets can be used.
-/
import VersionProbe.Pattern.CharSet

namespace VersionProbe

open Pattern in
/-- A pattern, as it is written.  Symbols and sets keep the mode that they stand in; of repetitions
it does not matter how often. -/
inductive Pattern
  | empty
  /-- Flags for what follows them. -/
  | flags
  | symbol (mode : Mode) (s : Symbol)
  | charSet (mode : Mode) (s : CharSet)
  | repetition (p : Pattern)
  | group (name : Option (List Char)) (p : Pattern)
  | sequence (parts : List Pattern)
  | choice (branches : List Pattern)

namespace Pattern

/-- The pattern of several parts after another; a single part is not a sequence. -/
def ofParts : List Pattern → Pattern
  | [] => empty
  | [p] => p
  | parts => sequence parts

/-- Whether a pattern can be repeated. -/
def isRepeatable : Pattern → Bool
  | empty => false
  | flags => false
  | _ => true

mutual

/-- How deeply a pattern is nested, the sets in it included. -/
def depth : Pattern → Nat
  | empty => 0
  | flags => 0
  | symbol _ _ => 0
  | charSet _ s => s.depth
  | repetition p => depth p + 1
  | group _ p => depth p + 1
  | sequence parts => deepest parts + 1
  | choice branches => deepest branches + 1

/-- The depth of the deepest of several patterns. -/
def deepest : List Pattern → Nat
  | [] => 0
  | p :: rest => max (depth p) (deepest rest)

end

mutual

/-- The names of the groups in a pattern. -/
def groupNames : Pattern → List (List Char)
  | group name p => name.toList ++ groupNames p
  | repetition p => groupNames p
  | sequence parts => allGroupNames parts
  | choice branches => allGroupNames branches
  | _ => []

/-- The names of the groups in several patterns. -/
def allGroupNames : List Pattern → List (List Char)
  | [] => []
  | p :: rest => groupNames p ++ allGroupNames rest

end

mutual

/-- Whether all symbols and sets of a pattern can be used in their modes. -/
def isUsable : Pattern → Bool
  | symbol mode s => s.isUsable mode
  | charSet mode s => s.isUsable mode
  | repetition p => isUsable p
  | group _ p => isUsable p
  | sequence parts => allUsable parts
  | choice branches => allUsable branches
  | _ => true

/-- Whether all symbols and sets of several patterns can be used in their modes. -/
def allUsable : List Pattern → Bool
  | [] => true
  | p :: rest => isUsable p && allUsable rest

end

/-- How deeply a pattern may be nested. -/
def maxDepth : Nat := 250

/-- Whether a pattern can be used. -/
def isSound (p : Pattern) : Bool :=
  p.depth ≤ maxDepth && decide p.groupNames.Nodup && p.isUsable

end Pattern

end VersionProbe
