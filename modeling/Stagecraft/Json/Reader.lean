import Stagecraft.Json.Container
import Stagecraft.Json.Numeral

/-!
# Reading values

* `scanScalar` reads a word, a number or a string;
* `scanValue` reads any value, with at most `room` open brackets;
* `wrongKind` is the fault of finding a value where one of another kind is expected; a scalar is
  read first, so that the fault names it and stands behind it;
* `scanText`, `scanSize` and `scanList` read a string, a number of 64 bits without sign, and an
  array of things of one kind;
* `parse` reads a whole text.
-/

namespace Stagecraft.Json

/-! ## 1. Scalars -/

/-- The value `value`, if its word goes on as `word`. -/
def scanWord (value : Value) (word : List Char) : Scan Value := fun s =>
  match takeWord word s with
  | .error fault => .error fault
  | .ok s => .ok (value, s)

/-- A number as a value, after its sign. -/
def scanNumberValue (negative : Bool) : Scan Value := fun s =>
  match scanNumber negative s with
  | .error fault => .error fault
  | .ok (n, s) => .ok (.number n, s)

/-- A string as a value, after its quote. -/
def scanStringValue : Scan Value := fun s =>
  match scanString s with
  | .error fault => .error fault
  | .ok (text, s) => .ok (.string text, s)

/-- A value that is neither array nor object. -/
def scanScalar : Scan Value
  | 'n' :: s => scanWord .null ['u', 'l', 'l'] s
  | 't' :: s => scanWord (.bool true) ['r', 'u', 'e'] s
  | 'f' :: s => scanWord (.bool false) ['a', 'l', 's', 'e'] s
  | '-' :: s => scanNumberValue true s
  | '"' :: s => scanStringValue s
  | s => if startsWithDigit s then scanNumberValue false s else .error (Fault.upon .noValue s)

/-! ## 2. Values -/

/-- Adds an element, read by `read`, to the elements before it, the last one first. -/
def itemStep {α : Type} (read : Scan α) (items : List α) : Scan (List α) := fun s =>
  match read s with
  | .error fault => .error fault
  | .ok (x, s) => .ok (x :: items, s)

/-- Adds a field, whose value is read by `read`, to the fields before it, the last one first. -/
def fieldStep {α : Type} (read : Scan α) (fields : List (String × α)) (key : String) :
    Scan (List (String × α)) := fun s =>
  match takeColon s with
  | .error fault => .error fault
  | .ok s =>
    match read s with
    | .error fault => .error fault
    | .ok (x, s) => .ok ((key, x) :: fields, s)

/-- The value made of what was read, the rest unchanged. -/
def Read.map {α β : Type} (f : α → β) : Read α → Read β
  | .error fault => .error fault
  | .ok (x, s) => .ok (f x, s)

/-- A value of any kind. -/
def scanValue (room : Nat) (s : List Char) : Read Value :=
  match skipSpace s with
  | [] => .error (Fault.before .endsInValue [])
  | '[' :: s =>
    match room with
    | 0 => .error (Fault.upon .tooDeep ('[' :: s))
    | room + 1 =>
      inArray (Read.map (fun items => .array items.reverse)
        (foldItems (itemStep (scanValue room)) true [] s))
  | '\x7b' :: s =>
    match room with
    | 0 => .error (Fault.upon .tooDeep ('\x7b' :: s))
    | room + 1 =>
      inObject (Read.map (fun fields => .object fields.reverse)
        (foldFields (fieldStep (scanValue room)) [] s))
  | s => scanScalar s

/-! ## 3. Values of one kind -/

/-- The fault of finding, at the front of `s`, a value of another kind than `expected`. -/
def wrongKind (expected : String) (s : List Char) : Fault :=
  match s with
  | '[' :: _ => Fault.before (.wrongType .sequence expected) s
  | '\x7b' :: _ => Fault.before (.wrongType .map expected) s
  | s =>
    match scanScalar s with
    | .error fault => fault
    | .ok (value, rest) => Fault.before (.wrongType value.found expected) rest

/-- A string. -/
def scanText (expected : String) (s : List Char) : Read String :=
  match skipSpace s with
  | [] => .error (Fault.before .endsInValue [])
  | '"' :: s => scanString s
  | s => .error (wrongKind expected s)

/-- The size that a number is, if it is one of 64 bits without sign. -/
def sizeOfNumber (n : Number) : Except Cause Nat :=
  match n with
  | .whole (.ofNat n) => .ok n
  | .whole n => .error (.wrongValue (.number (.whole n)) "usize")
  | n => .error (.wrongType (.number n) "usize")

/-- A size. -/
def scanSize (s : List Char) : Read Nat :=
  let size (result : Read Number) : Read Nat :=
    match result with
    | .error fault => .error fault
    | .ok (n, s) =>
      match sizeOfNumber n with
      | .error cause => .error (Fault.before cause s)
      | .ok n => .ok (n, s)
  match skipSpace s with
  | [] => .error (Fault.before .endsInValue [])
  | '-' :: s => size (scanNumber true s)
  | s => if startsWithDigit s then size (scanNumber false s) else .error (wrongKind "usize" s)

/-- An array whose elements are read by `read`. -/
def scanList {α : Type} (read : Nat → Scan α) (room : Nat) (s : List Char) : Read (List α) :=
  match skipSpace s with
  | [] => .error (Fault.before .endsInValue [])
  | '[' :: s =>
    match enter room ('[' :: s) with
    | .error fault => .error fault
    | .ok room => inArray (Read.map List.reverse (foldItems (itemStep (read room)) true [] s))
  | s => .error (wrongKind "a sequence" s)

/-! ## 4. Whole texts -/

/-- Nothing but blanks may follow. -/
def endOfText {α : Type} : Read α → Except Fault α
  | .error fault => .error fault
  | .ok (x, s) =>
    match skipSpace s with
    | [] => .ok x
    | s => .error (Fault.upon .trailingCharacters s)

/-- Reads a whole text. -/
def parse {α : Type} (read : Nat → Scan α) (text : String) : Except Fault α :=
  endOfText (read roomAtStart text.toList)

/-- Reads a whole text as a value of any kind. -/
def Value.parse (text : String) : Except Fault Value :=
  Json.parse scanValue text

end Stagecraft.Json
