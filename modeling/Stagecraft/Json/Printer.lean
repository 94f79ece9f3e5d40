import Stagecraft.Json.Quoted

/-!
# Writing values

A value is written in one line without blanks (`compact`), or with every element and field on a
line of its own (`indented`): two blanks for each open bracket, a blank after the colon, and
nothing between the brackets of an empty array or object.
-/

namespace Stagecraft.Json

/-- How a value is set out. -/
inductive Layout where
  | compact
  | indented
deriving DecidableEq

namespace Layout

/-- What stands before an element at the given depth. -/
def newLine : Layout → Nat → List Char
  | compact, _ => []
  | indented, depth => '\n' :: List.replicate (2 * depth) ' '

/-- What stands between a key and its value. -/
def colon : Layout → List Char
  | compact => [':']
  | indented => [':', ' ']

end Layout

mutual

/-- A value at the given depth. -/
def Value.write (layout : Layout) (depth : Nat) : Value → List Char
  | .null => ['n', 'u', 'l', 'l']
  | .bool true => ['t', 'r', 'u', 'e']
  | .bool false => ['f', 'a', 'l', 's', 'e']
  | .number n => n.text.toList
  | .string text => quoteChars text.toList
  | .array [] => ['[', ']']
  | .array (item :: items) =>
    '[' :: writeItems layout (depth + 1) (item :: items) ++ layout.newLine depth ++ [']']
  | .object [] => ['\x7b', '\x7d']
  | .object (field :: fields) =>
    '\x7b' :: writeFields layout (depth + 1) (field :: fields) ++ layout.newLine depth ++ ['\x7d']

/-- Elements with commas between them. -/
def writeItems (layout : Layout) (depth : Nat) : List Value → List Char
  | [] => []
  | [item] => layout.newLine depth ++ item.write layout depth
  | item :: items =>
    layout.newLine depth ++ item.write layout depth ++ ',' :: writeItems layout depth items

/-- Fields with commas between them. -/
def writeFields (layout : Layout) (depth : Nat) : List (String × Value) → List Char
  | [] => []
  | [(key, value)] =>
    layout.newLine depth ++ quoteChars key.toList ++ layout.colon ++ value.write layout depth
  | (key, value) :: fields =>
    layout.newLine depth ++ quoteChars key.toList ++ layout.colon ++ value.write layout depth
      ++ ',' :: writeFields layout depth fields

end

/-- A value as text. -/
def Value.text (layout : Layout) (value : Value) : String :=
  String.ofList (value.write layout 0)

end Stagecraft.Json
