/-
# Escaped text

Text from outside may hold characters that make a terminal do something.  On its way to the console
each of them is replaced by a spelling of its code.
-/
import VersionProbe.Hex

namespace VersionProbe.Text

/-- Whether a character of ASCII text can command a terminal: bell, backspace, form feed, escape,
delete. -/
def isCommand (c : Char) : Bool :=
  c = '\x07' || c = '\x08' || c = '\x0c' || c = '\x1b' || c = '\x7f'

/-- Whether a character is one of the control characters above ASCII. -/
def isHighControl (c : Char) : Bool :=
  0x80 ≤ c.toNat && c.toNat ≤ 0x9F

/-- How a character is spelled on the console. -/
def escapeChar (c : Char) : List Char :=
  if isCommand c then '\\' :: 'x' :: Hex.byteDigits (UInt8.ofNat c.toNat)
  else if isHighControl c then
    '\\' :: 'u' :: '\x7b' :: Hex.byteDigits (UInt8.ofNat c.toNat) ++ ['\x7d']
  else [c]

/-- A text as it is spelled on the console. -/
def escape (s : String) : String :=
  String.ofList (s.toList.flatMap escapeChar)

end VersionProbe.Text
