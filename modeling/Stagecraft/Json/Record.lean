import Stagecraft.Json.Skip

/-!
# Records

A record is an object with known keys in any order, or an array with the same values in their
order. While a record is read, its values are collected in a draft of type `δ`; a `Record δ α`
says which keys there are, how the draft takes the value of each, and how a draft becomes an `α`.

In an object, keys that are not known are passed over, a known key may occur once, and what is
missing is reported at the end, in the order of the fields. An array has exactly the values of all
fields.
-/

namespace Stagecraft.Json

/-- One field of a record. -/
structure Slot (δ : Type) where
  key : String
  /-- Whether the draft has the field's value. -/
  isFilled : δ → Bool
  /-- Reads the field's value into the draft. -/
  read : Nat → δ → Scan δ

/-- How a record is read. -/
structure Record (δ α : Type) where
  title : String
  empty : δ
  slots : List (Slot δ)
  complete : δ → Except Cause α

/-- The value of a field that has to be there. -/
def required {α : Type} (key : String) : Option α → Except Cause α
  | some x => .ok x
  | none => .error (.missingField key)

/-- Puts a value that is read by `read` into a draft. -/
def fill {α δ : Type} (read : Nat → Scan α) (put : δ → α → δ) (room : Nat) (draft : δ) : Scan δ :=
  fun s => Read.map (put draft) (read room s)

namespace Record

variable {δ α : Type}

/-- Reads the field after `key` of an object. -/
def fieldStep (record : Record δ α) (room : Nat) (draft : δ) (key : String) : Scan δ := fun s =>
  match record.slots.find? (·.key == key) with
  | some slot =>
    if slot.isFilled draft then .error (Fault.loose (.repeatedField key) s)
    else
      match takeColon s with
      | .error fault => .error fault
      | .ok s => slot.read room draft s
  | none =>
    match takeColon s with
    | .error fault => .error fault
    | .ok s =>
      match skipValue s with
      | .error fault => .error fault
      | .ok s => .ok (draft, s)

/-- Reads the values of `slots` from an array; `count` values stand before them. -/
def scanItems (title : String) (total : Nat) (room : Nat) : List (Slot δ) → Nat → δ → Scan δ
  | [], _, draft, s => .ok (draft, s)
  | slot :: slots, count, draft, s =>
    match nextItem (count == 0) s with
    | .error fault => .error fault
    | .ok none =>
      .error (Fault.loose (.wrongLength count s!"{title} with {describeElements total}") s)
    | .ok (some s) =>
      match slot.read room draft s with
      | .error fault => .error fault
      | .ok (draft, s) => scanItems title total room slots (count + 1) draft s

/-- Makes the record of a draft. -/
def finish (record : Record δ α) : Read δ → Read α
  | .error fault => .error fault
  | .ok (draft, s) =>
    match record.complete draft with
    | .error cause => .error (Fault.loose cause s)
    | .ok x => .ok (x, s)

/-- Reads a record. -/
def scan (record : Record δ α) (room : Nat) (s : List Char) : Read α :=
  match skipSpace s with
  | [] => .error (Fault.before .endsInValue [])
  | '[' :: s =>
    match enter room ('[' :: s) with
    | .error fault => .error fault
    | .ok room =>
      inArray (record.finish
        (scanItems record.title record.slots.length room record.slots 0 record.empty s))
  | '\x7b' :: s =>
    match enter room ('\x7b' :: s) with
    | .error fault => .error fault
    | .ok room => inObject (record.finish (foldFields (record.fieldStep room) record.empty s))
  | s => .error (wrongKind record.title s)

end Record

end Stagecraft.Json
