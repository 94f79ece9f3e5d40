import Stagecraft.Json.Reader

/-!
# Choices

A choice is one of several names. It is written as a string, or as an object whose only key is the
name and whose value is `null`.
-/

namespace Stagecraft.Json

/-- One of the names in `choices`, as a string. -/
def scanVariant (choices : List String) : Scan String := fun s =>
  match scanText "variant identifier" s with
  | .error fault => .error fault
  | .ok (name, s) =>
    if choices.contains name then .ok (name, s)
    else .error (Fault.before (.unknownVariant name choices) s)

/-- The value `null`. -/
def takeUnit (s : List Char) : Except Fault (List Char) :=
  match skipSpace s with
  | [] => .error (Fault.before .endsInValue [])
  | 'n' :: s => takeWord ['u', 'l', 'l'] s
  | s => .error (wrongKind "unit" s)

/-- Takes the closing bracket of a choice in the form of an object. -/
def closeChoice (name : String) (s : List Char) : Read String :=
  match skipSpace s with
  | '\x7d' :: s => .ok (name, s)
  | [] => .error (Fault.before .endsInObject [])
  | s => .error (Fault.before .noValue s)

/-- One of the names in `choices`, in either form. -/
def scanChoice (choices : List String) (room : Nat) (s : List Char) : Read String :=
  match skipSpace s with
  | [] => .error (Fault.before .endsInValue [])
  | '"' :: s => scanVariant choices ('"' :: s)
  | '\x7b' :: s =>
    match enter room ('\x7b' :: s) with
    | .error fault => .error fault
    | .ok _ =>
      match scanVariant choices s with
      | .error fault => .error fault
      | .ok (name, s) =>
        match takeColon s with
        | .error fault => .error fault
        | .ok s =>
          match takeUnit s with
          | .error fault => .error fault
          | .ok s => closeChoice name s
  | s => .error (Fault.upon .noValue s)

end Stagecraft.Json
