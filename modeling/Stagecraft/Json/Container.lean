import Stagecraft.Json.Quoted

/-!
# Arrays and objects

What arrays and objects have in common, whatever stands inside them:

* `nextItem` and `nextKey` find the next element or key, or the closing bracket;
* `foldItems` and `foldFields` read all elements or fields, one after the other;
* `inArray` and `inObject` take the closing bracket after what was read inside. A fault without a
  place that comes from the inside gets its place there: blanks are passed, and the closing
  bracket too if it is next; in an array also a comma and the blanks after it;
* `enter` counts the brackets that are open. `room` is how many more may be opened.
-/

namespace Stagecraft.Json

/-! ## 1. Blanks and words -/

/-- The four characters that may stand between any two parts of a text. -/
def isSpace (c : Char) : Bool :=
  c = ' ' || c = '\n' || c = '\t' || c = '\r'

/-- Passes over blanks. -/
def skipSpace : List Char → List Char
  | [] => []
  | c :: cs => if isSpace c then skipSpace cs else c :: cs

/-- Takes exactly the characters `word`. -/
def takeWord : List Char → List Char → Except Fault (List Char)
  | [], s => .ok s
  | _ :: _, [] => .error (Fault.before .endsInValue [])
  | w :: ws, c :: s => if w = c then takeWord ws s else .error (Fault.upon .noWord (c :: s))

/-- How many arrays and objects may be open at once. -/
def roomAtStart : Nat := 127

/-- Opens one more bracket, at which `s` begins. -/
def enter (room : Nat) (s : List Char) : Except Fault Nat :=
  match room with
  | 0 => .error (Fault.upon .tooDeep s)
  | room + 1 => .ok room

/-! ## 2. Elements -/

/-- Finds the next element of an array, `none` at the closing bracket. A comma stands before every
    element but the first. -/
def nextItem (first : Bool) (s : List Char) : Except Fault (Option (List Char)) :=
  match skipSpace s with
  | [] => .error (Fault.before .endsInList [])
  | ']' :: _ => .ok none
  | c :: s =>
    if first then .ok (some (c :: s))
    else if c = ',' then
      match skipSpace s with
      | [] => .error (Fault.before .endsInValue [])
      | ']' :: s => .error (Fault.upon .trailingComma (']' :: s))
      | s => .ok (some s)
    else .error (Fault.upon .noCommaOrBracket (c :: s))

/-- Reads the elements up to the closing bracket. Every element but the first takes a comma at
    least, so a `fuel` of the text's length and two suffices. -/
def foldItemsFrom {σ : Type} (step : σ → Scan σ) : Nat → Bool → σ → Scan σ
  | 0, _, _, s => .error (Fault.before .endsInList s)
  | fuel + 1, first, state, s =>
    match nextItem first s with
    | .error fault => .error fault
    | .ok none => .ok (state, s)
    | .ok (some s) =>
      match step state s with
      | .error fault => .error fault
      | .ok (state, s) => foldItemsFrom step fuel false state s

/-- Reads the elements of an array up to its closing bracket; `first` says whether the first one
    is still to come. -/
def foldItems {σ : Type} (step : σ → Scan σ) (first : Bool) (state : σ) : Scan σ := fun s =>
  foldItemsFrom step (s.length + 2) first state s

/-- Takes the closing bracket of an array. -/
def closeArray (s : List Char) : Except Fault (List Char) :=
  match skipSpace s with
  | ']' :: s => .ok s
  | ',' :: s =>
    match skipSpace s with
    | ']' :: s => .error (Fault.upon .trailingComma (']' :: s))
    | s => .error (Fault.upon .trailingCharacters s)
  | [] => .error (Fault.before .endsInList [])
  | s => .error (Fault.upon .trailingCharacters s)

/-- Where the end of an array was looked for. -/
def leaveArray (s : List Char) : List Char :=
  match skipSpace s with
  | ']' :: s => s
  | ',' :: s => skipSpace s
  | s => s

/-- Takes the closing bracket after what stands inside an array. -/
def inArray {α : Type} : Read α → Read α
  | .error fault => .error (fault.settle (leaveArray fault.rest))
  | .ok (x, s) =>
    match closeArray s with
    | .error fault => .error fault
    | .ok s => .ok (x, s)

/-! ## 3. Fields -/

/-- A key of an object, at whose quote the text begins. -/
def scanKey (s : List Char) : Read (Option String) :=
  match scanString s with
  | .error fault => .error fault
  | .ok (key, s) => .ok (some key, s)

/-- Finds the next key of an object, `none` at the closing bracket. A comma stands before every
    key but the first. -/
def nextKey (first : Bool) (s : List Char) : Read (Option String) :=
  match skipSpace s with
  | [] => .error (Fault.before .endsInObject [])
  | '\x7d' :: s => .ok (none, '\x7d' :: s)
  | c :: s =>
    if first then
      if c = '"' then scanKey s else .error (Fault.upon .keyNotString (c :: s))
    else if c = ',' then
      match skipSpace s with
      | [] => .error (Fault.before .endsInValue [])
      | '\x7d' :: s => .error (Fault.upon .trailingComma ('\x7d' :: s))
      | '"' :: s => scanKey s
      | s => .error (Fault.upon .keyNotString s)
    else .error (Fault.upon .noCommaOrBrace (c :: s))

/-- Takes the colon after a key. -/
def takeColon (s : List Char) : Except Fault (List Char) :=
  match skipSpace s with
  | [] => .error (Fault.before .endsInObject [])
  | ':' :: s => .ok s
  | s => .error (Fault.upon .noColon s)

/-- Reads the fields up to the closing bracket. Every field takes a quote at least, so a `fuel` of
    the text's length and one suffices. -/
def foldFieldsFrom {σ : Type} (step : σ → String → Scan σ) : Nat → Bool → σ → Scan σ
  | 0, _, _, s => .error (Fault.before .endsInObject s)
  | fuel + 1, first, state, s =>
    match nextKey first s with
    | .error fault => .error fault
    | .ok (none, s) => .ok (state, s)
    | .ok (some key, s) =>
      match step state key s with
      | .error fault => .error fault
      | .ok (state, s) => foldFieldsFrom step fuel false state s

/-- Reads the fields of an object up to its closing bracket. The step begins after the key. -/
def foldFields {σ : Type} (step : σ → String → Scan σ) (state : σ) : Scan σ := fun s =>
  foldFieldsFrom step (s.length + 1) true state s

/-- Takes the closing bracket of an object. -/
def closeObject (s : List Char) : Except Fault (List Char) :=
  match skipSpace s with
  | '\x7d' :: s => .ok s
  | ',' :: s => .error (Fault.upon .trailingComma (',' :: s))
  | [] => .error (Fault.before .endsInObject [])
  | s => .error (Fault.upon .trailingCharacters s)

/-- Where the end of an object was looked for. -/
def leaveObject (s : List Char) : List Char :=
  match skipSpace s with
  | '\x7d' :: s => s
  | s => s

/-- Takes the closing bracket after what stands inside an object. -/
def inObject {α : Type} : Read α → Read α
  | .error fault => .error (fault.settle (leaveObject fault.rest))
  | .ok (x, s) =>
    match closeObject s with
    | .error fault => .error fault
    | .ok s => .ok (x, s)

end Stagecraft.Json
