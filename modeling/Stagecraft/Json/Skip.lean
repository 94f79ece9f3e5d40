import Stagecraft.Json.Reader

/-!
# Passing over values

The value of a key that nobody asks for has to be a JSON value, but its numbers have no bounds, its
strings may hold lone surrogates, and its brackets may be nested to any depth: the open brackets
are kept in a list.
-/

namespace Stagecraft.Json

/-- An open bracket: of an array or an object. -/
inductive Bracket where
  | array
  | object
deriving DecidableEq

/-- What comes next inside the open brackets. -/
inductive Step where
  /-- All brackets are closed. -/
  | done
  /-- A value, inside these brackets, the innermost first. -/
  | value (inside : List Bracket)

/-- Passes over a word. -/
def skipWord (word : List Char) (s : List Char) : Except Fault (List Char) :=
  takeWord word s

/-- Passes over a value that is neither array nor object. -/
def skipScalar : List Char → Except Fault (List Char)
  | 'n' :: s => skipWord ['u', 'l', 'l'] s
  | 't' :: s => skipWord ['r', 'u', 'e'] s
  | 'f' :: s => skipWord ['a', 'l', 's', 'e'] s
  | '-' :: s => skipNumber s
  | '"' :: s => skipString s
  | s => if startsWithDigit s then skipNumber s else .error (Fault.upon .noValue s)

/-- Passes over a key and its colon. -/
def skipKey (s : List Char) : Except Fault (List Char) :=
  match skipSpace s with
  | [] => .error (Fault.before .endsInObject [])
  | '"' :: s =>
    match skipString s with
    | .error fault => .error fault
    | .ok s => takeColon s
  | s => .error (Fault.upon .keyNotString s)

/-- Goes on to the next value directly inside `bracket`, past its key in an object. -/
def skipToValue (bracket : Bracket) (outer : List Bracket) (s : List Char) : Read Step :=
  match bracket with
  | .array => .ok (.value (bracket :: outer), s)
  | .object =>
    match skipKey s with
    | .error fault => .error fault
    | .ok s => .ok (.value (bracket :: outer), s)

/-- Goes on after a value: closes brackets, up to a comma or the end. -/
def skipAfterValue : List Bracket → Scan Step
  | [], s => .ok (.done, s)
  | bracket :: outer, s =>
    match bracket, skipSpace s with
    | .array, [] => .error (Fault.before .endsInList [])
    | .object, [] => .error (Fault.before .endsInObject [])
    | bracket, ',' :: s => skipToValue bracket outer s
    | .array, ']' :: s => skipAfterValue outer s
    | .object, '\x7d' :: s => skipAfterValue outer s
    | .array, s => .error (Fault.upon .noCommaOrBracket s)
    | .object, s => .error (Fault.upon .noCommaOrBrace s)

/-- Goes on after an opening bracket. -/
def skipAfterOpening (bracket : Bracket) (outer : List Bracket) (s : List Char) : Read Step :=
  match bracket, skipSpace s with
  | .array, [] => .error (Fault.before .endsInList [])
  | .object, [] => .error (Fault.before .endsInObject [])
  | .array, ']' :: s => skipAfterValue outer s
  | .object, '\x7d' :: s => skipAfterValue outer s
  | bracket, s => skipToValue bracket outer s

/-- Passes over the front of a value: a scalar or an opening bracket, and what follows it up to
    the next value. -/
def skipFront (inside : List Bracket) (s : List Char) : Read Step :=
  match skipSpace s with
  | [] => .error (Fault.before .endsInValue [])
  | '[' :: s => skipAfterOpening .array inside s
  | '\x7b' :: s => skipAfterOpening .object inside s
  | s =>
    match skipScalar s with
    | .error fault => .error fault
    | .ok s => skipAfterValue inside s

/-- Passes over values until all brackets are closed. Every step takes a character at least, so a
    `fuel` of the text's length and one suffices. -/
def skipFrom : Nat → List Bracket → List Char → Except Fault (List Char)
  | 0, _, s => .error (Fault.before .endsInValue s)
  | fuel + 1, inside, s =>
    match skipFront inside s with
    | .error fault => .error fault
    | .ok (.done, s) => .ok s
    | .ok (.value inside, s) => skipFrom fuel inside s

/-- Passes over a value. -/
def skipValue (s : List Char) : Except Fault (List Char) :=
  skipFrom (s.length + 1) [] s

end Stagecraft.Json
