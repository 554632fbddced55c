/-
# Places in a text

A place in a text is the number of bytes before it in UTF-8.  It may lie inside a character, and
then the text cannot be cut there.
-/

namespace VersionProbe.Text

/-- The number of bytes of a text. -/
def byteSize : List Char → Nat
  | [] => 0
  | c :: cs => c.utf8Size + byteSize cs

/-- The text from a place on. -/
def dropBytes? : Nat → List Char → Option (List Char)
  | 0, cs => some cs
  | _ + 1, [] => none
  | n + 1, c :: cs => if c.utf8Size ≤ n + 1 then dropBytes? (n + 1 - c.utf8Size) cs else none

/-- The text up to a place. -/
def takeBytes? : Nat → List Char → Option (List Char)
  | 0, _ => some []
  | _ + 1, [] => none
  | n + 1, c :: cs =>
    if c.utf8Size ≤ n + 1 then (takeBytes? (n + 1 - c.utf8Size) cs).map (c :: ·) else none

/-- So many bytes of a text from a place on. -/
def slice? (cs : List Char) (start size : Nat) : Option (List Char) :=
  (dropBytes? start cs).bind (takeBytes? size)

end VersionProbe.Text
