/-
# JSON text

The values that the probe shows as JSON and the two ways they are written: on one line without
blanks, and spread over lines with two blanks for each level.  Fields keep their order.
-/
import VersionProbe.Hex

namespace VersionProbe

/-- A JSON value, as far as the probe has any to show. -/
inductive Json
  | null
  | number (n : Nat)
  | text (s : String)
  | list (items : List Json)
  | object (fields : List (String × Json))

namespace Json

/-! ## Strings -/

/-- How a character stands inside a string: only the quotation mark, the backslash and the
control characters below the blank are escaped. -/
def escape (c : Char) : List Char :=
  if c = '"' then ['\\', '"']
  else if c = '\\' then ['\\', '\\']
  else if c = '\x08' then ['\\', 'b']
  else if c = '\t' then ['\\', 't']
  else if c = '\n' then ['\\', 'n']
  else if c = '\x0c' then ['\\', 'f']
  else if c = '\r' then ['\\', 'r']
  else if c.toNat < 32 then '\\' :: 'u' :: '0' :: '0' :: Hex.byteDigits (UInt8.ofNat c.toNat)
  else [c]

/-- A string between its quotation marks. -/
def quote (s : String) : String :=
  String.ofList ('"' :: s.toList.flatMap escape ++ ['"'])

/-- A value that may be absent. -/
def ofOption {α : Type} (f : α → Json) : Option α → Json
  | none => null
  | some a => f a

/-! ## On one line -/

mutual

/-- A value on one line, without blanks. -/
def compact : Json → String
  | null => "null"
  | number n => toString n
  | text s => quote s
  | list items => "[" ++ ",".intercalate (compactItems items) ++ "]"
  | object fields => "\x7b" ++ ",".intercalate (compactFields fields) ++ "\x7d"

/-- The items of a list, each on one line. -/
def compactItems : List Json → List String
  | [] => []
  | item :: rest => compact item :: compactItems rest

/-- The fields of an object, each on one line. -/
def compactFields : List (String × Json) → List String
  | [] => []
  | (name, value) :: rest => (quote name ++ ":" ++ compact value) :: compactFields rest

end

/-! ## Over several lines -/

/-- The start of a line at some level. -/
def margin (level : Nat) : String :=
  String.ofList (List.replicate (2 * level) ' ')

/-- What stands between two brackets: nothing, or each part on a line of its own one level further
in. -/
def block (level : Nat) (opening closing : String) : List String → String
  | [] => opening ++ closing
  | parts =>
    opening ++ "\n" ++ ",\n".intercalate (parts.map (margin (level + 1) ++ ·)) ++ "\n"
      ++ margin level ++ closing

mutual

/-- A value that stands at some level, over as many lines as it needs. -/
def prettyAt (level : Nat) : Json → String
  | null => "null"
  | number n => toString n
  | text s => quote s
  | list items => block level "[" "]" (prettyItems (level + 1) items)
  | object fields => block level "\x7b" "\x7d" (prettyFields (level + 1) fields)

/-- The items of a list that stand at some level. -/
def prettyItems (level : Nat) : List Json → List String
  | [] => []
  | item :: rest => prettyAt level item :: prettyItems level rest

/-- The fields of an object that stand at some level. -/
def prettyFields (level : Nat) : List (String × Json) → List String
  | [] => []
  | (name, value) :: rest =>
    (quote name ++ ": " ++ prettyAt level value) :: prettyFields level rest

end

/-- A value over as many lines as it needs, without a final line end. -/
def pretty (j : Json) : String :=
  prettyAt 0 j

end Json

end VersionProbe
