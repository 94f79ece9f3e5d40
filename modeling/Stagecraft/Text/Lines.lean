/-!
# Lines of a text

* `lines` cuts a text into lines: a line ends at a line feed, a carriage return directly before
  that line feed belongs to the end, and there is no empty line after the last line feed. Every
  other carriage return stays in its line.
* `joinLines` puts lines back together with one line feed between any two of them.
* `hasBreak` says whether a line holds a line feed or a carriage return, which no line of a
  handler's body may.
-/

namespace Stagecraft.Text

/-- Whether a character breaks a line. -/
def isBreak (c : Char) : Bool :=
  c = '\n' || c = '\r'

/-- Whether a line holds a line break. -/
def hasBreak (line : String) : Bool :=
  line.toList.any isBreak

/-- `c` at the front of the first line, which it starts if there is none. -/
def consFirst (c : Char) : List (List Char) → List (List Char)
  | [] => [[c]]
  | line :: more => (c :: line) :: more

/-- The lines of a list of characters. -/
def splitLines : List Char → List (List Char)
  | [] => []
  | '\n' :: rest => [] :: splitLines rest
  | '\r' :: '\n' :: rest => [] :: splitLines rest
  | c :: rest => consFirst c (splitLines rest)

/-- The lines of a text. -/
def lines (text : String) : List String :=
  (splitLines text.toList).map String.ofList

/-- Lines with one line feed between any two of them. -/
def joinChars : List (List Char) → List Char
  | [] => []
  | [line] => line
  | line :: more => line ++ '\n' :: joinChars more

/-- The text of `lines`, with one line feed between any two of them. -/
def joinLines (lines : List String) : String :=
  String.ofList (joinChars (lines.map String.toList))

end Stagecraft.Text
