import Stagecraft.Text.Classes
import Stagecraft.Text.Hex

/-!
# Quoted text for messages

A text that appears in a message stands in double quotes. A quote, a backslash and the common
control characters are written with a backslash, and a character that has no visible form of its
own is written by its code point in braces.
-/

namespace Stagecraft.Text

/-- The number of hexadecimal digits that `n` needs. -/
def hexWidth (n : Nat) : Nat :=
  if n = 0 then 1 else n.log2 / 4 + 1

/-- A character by its code point. -/
def byNumber (c : Char) : List Char :=
  ['\\', 'u', '\x7b'] ++ Hex.digits (hexWidth c.toNat) c.toNat ++ ['\x7d']

/-- A character as it stands in a quoted text. -/
def escapedChar (c : Char) : List Char :=
  if c = '\x00' then ['\\', '0']
  else if c = '\t' then ['\\', 't']
  else if c = '\n' then ['\\', 'n']
  else if c = '\r' then ['\\', 'r']
  else if c = '"' then ['\\', '"']
  else if c = '\\' then ['\\', '\\']
  else if isInvisible c then byNumber c
  else [c]

/-- A text in quotes. -/
def escaped (text : String) : String :=
  String.ofList ('"' :: text.toList.flatMap escapedChar ++ ['"'])

end Stagecraft.Text
