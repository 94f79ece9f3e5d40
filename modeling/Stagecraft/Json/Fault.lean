import Stagecraft.Json.Value
import Stagecraft.Text.Escaped

/-!
# What can be wrong with a JSON text

A `Fault` has a cause and a place. The cause is a fault of the text's form, an end of the text in
the middle of something, or a value that does not fit what is read. The place is known by what had
not been read: `rest`, and how many bytes of it count as seen (`beyond`).

A fault that concerns a whole object or array has no place at first (`settled = false`). It gets
one from the nearest object or array around it, where that one's end is looked for.
-/

namespace Stagecraft.Json

/-! ## 1. Causes -/

/-- What was found where something else was expected. -/
inductive Found where
  | null
  | bool (b : Bool)
  | number (n : Number)
  | text (s : String)
  | sequence
  | map
deriving DecidableEq

/-- What a value is, for a message. -/
def Value.found : Value → Found
  | .null => .null
  | .bool b => .bool b
  | .number n => .number n
  | .string s => .text s
  | .array _ => .sequence
  | .object _ => .map

namespace Found

/-- A description of what was found. -/
def describe : Found → String
  | null => "null"
  | bool b => s!"boolean `{b}`"
  | number (.whole n) => s!"integer `{n}`"
  | number n => s!"floating point `{n.text}`"
  | text s => s!"string {Text.escaped s}"
  | sequence => "sequence"
  | map => "map"

end Found

/-- What is wrong with a text. -/
inductive Cause where
  | endsInValue
  | endsInObject
  | endsInList
  | endsInString
  | noValue
  | noWord
  | noColon
  | noCommaOrBrace
  | noCommaOrBracket
  | keyNotString
  | trailingComma
  | trailingCharacters
  | badNumber
  | numberOutOfRange
  | badEscape
  | loneSurrogate
  | cutSurrogate
  | controlCharacter
  | tooDeep
  /-- A value of another kind than expected. -/
  | wrongType (found : Found) (expected : String)
  /-- A value of the right kind that is out of its bounds. -/
  | wrongValue (found : Found) (expected : String)
  | unknownVariant (name : String) (choices : List String)
  | missingField (key : String)
  | repeatedField (key : String)
  | wrongLength (found : Nat) (expected : String)
  /-- The value has the right form, but its type has a rule that refuses it. -/
  | refused (reason : String)
deriving DecidableEq

/-- The three kinds of causes. -/
inductive Category where
  | form
  | data
  | ending
deriving DecidableEq

/-- Choices in a message: each in backquotes, two with "or" between them, more after "one of". -/
def describeChoices : List String → String
  | [one] => s!"`{one}`"
  | [one, two] => s!"`{one}` or `{two}`"
  | choices => "one of " ++ String.intercalate ", " (choices.map fun c => s!"`{c}`")

/-- A number of elements in a message. -/
def describeElements : Nat → String
  | 1 => "1 element"
  | n => s!"{n} elements"

namespace Cause

/-- The kind of a cause. -/
def category : Cause → Category
  | endsInValue | endsInObject | endsInList | endsInString => .ending
  | wrongType .. | wrongValue .. | unknownVariant .. | missingField _ | repeatedField _
  | wrongLength .. | refused _ => .data
  | _ => .form

/-- A cause in words. -/
def message : Cause → String
  | endsInValue => "EOF while parsing a value"
  | endsInObject => "EOF while parsing an object"
  | endsInList => "EOF while parsing a list"
  | endsInString => "EOF while parsing a string"
  | noValue => "expected value"
  | noWord => "expected ident"
  | noColon => "expected `:`"
  | noCommaOrBrace => "expected `,` or `\x7d`"
  | noCommaOrBracket => "expected `,` or `]`"
  | keyNotString => "key must be a string"
  | trailingComma => "trailing comma"
  | trailingCharacters => "trailing characters"
  | badNumber => "invalid number"
  | numberOutOfRange => "number out of range"
  | badEscape => "invalid escape"
  | loneSurrogate => "lone leading surrogate in hex escape"
  | cutSurrogate => "unexpected end of hex escape"
  | controlCharacter => "control character (\\u0000-\\u001F) found while parsing a string"
  | tooDeep => "recursion limit exceeded"
  | wrongType found expected => s!"invalid type: {found.describe}, expected {expected}"
  | wrongValue found expected => s!"invalid value: {found.describe}, expected {expected}"
  | unknownVariant name choices =>
    s!"unknown variant `{name}`, expected {describeChoices choices}"
  | missingField key => s!"missing field `{key}`"
  | repeatedField key => s!"duplicate field `{key}`"
  | wrongLength found expected => s!"invalid length {found}, expected {expected}"
  | refused reason => reason

end Cause

/-! ## 2. Faults and their places -/

/-- A fault in a text. -/
structure Fault where
  cause : Cause
  /-- What had not been read. -/
  rest : List Char
  /-- How many bytes of `rest` count as seen. -/
  beyond : Nat
  /-- Whether the fault has its place. -/
  settled : Bool

/-- What reading gives: a value and the unread rest of the text, or a fault. -/
abbrev Read (α : Type) := Except Fault (α × List Char)

/-- Reads a value at the front of a text. -/
abbrev Scan (α : Type) := List Char → Read α

namespace Fault

/-- A fault just before `rest`. -/
def before (cause : Cause) (rest : List Char) : Fault :=
  ⟨cause, rest, 0, true⟩

/-- A fault upon the first byte of `rest`. -/
def upon (cause : Cause) (rest : List Char) : Fault :=
  ⟨cause, rest, 1, true⟩

/-- A fault that has no place yet. -/
def loose (cause : Cause) (rest : List Char) : Fault :=
  ⟨cause, rest, 0, false⟩

/-- Gives a fault without a place the place before `rest`. -/
def settle (rest : List Char) (fault : Fault) : Fault :=
  if fault.settled then fault else before fault.cause rest

/-- Line and column after `count` bytes of a text: lines count from one, the column is the number
    of bytes of the line. -/
def placeAfter (line column : Nat) : Nat → List Char → Nat × Nat
  | 0, _ => (line, column)
  | _, [] => (line, column)
  | count + 1, c :: cs =>
    if c = '\n' then placeAfter (line + 1) 0 count cs
    else if count + 1 < c.utf8Size then (line, column + (count + 1))
    else placeAfter line (column + c.utf8Size) (count + 1 - c.utf8Size) cs

/-- The number of bytes of a list of characters. -/
def bytes (cs : List Char) : Nat :=
  cs.foldl (fun n c => n + c.utf8Size) 0

/-- Line and column of a fault in the text that was read. -/
def place (text : String) (fault : Fault) : Nat × Nat :=
  placeAfter 1 0 (text.utf8ByteSize - bytes fault.rest + fault.beyond) text.toList

/-- The fault in words, without its place. -/
def message (fault : Fault) : String :=
  fault.cause.message

/-- The fault in words, with its place if it has one. -/
def describe (text : String) (fault : Fault) : String :=
  if fault.settled then
    let (line, column) := fault.place text
    s!"{fault.message} at line {line} column {column}"
  else fault.message

end Fault

end Stagecraft.Json
