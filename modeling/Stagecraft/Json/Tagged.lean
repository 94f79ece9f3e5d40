import Stagecraft.Json.Choice
import Stagecraft.Json.Record

/-!
# Tagged values

A tagged value is an object with a field `kind`, which names its variant, beside the fields of the
variant; or an array of the name and the values of those fields. The tag may come after the
fields, so the whole value is read before its fields are looked at: `scanTagged` yields the tag
and the content, and a `Variant` says what the content has to be.
-/

namespace Stagecraft.Json

/-- The key of the tag. -/
def tagKey : String := "kind"

/-! ## 1. Tag and content -/

/-- A tag and what stands beside it: the elements of an array or the fields of an object. -/
structure Tagged where
  tag : String
  content : Value

/-- What is known of a tagged object: its tag, and its other fields, the last one first. -/
structure TaggedDraft where
  tag : Option String
  fields : List (String × Value)

/-- Reads the field after `key` of a tagged object. -/
def TaggedDraft.step (choices : List String) (room : Nat) (draft : TaggedDraft) (key : String) :
    Scan TaggedDraft := fun s =>
  if key = tagKey then
    if draft.tag.isSome then .error (Fault.loose (.repeatedField tagKey) s)
    else
      match takeColon s with
      | .error fault => .error fault
      | .ok s => Read.map (fun tag => ⟨some tag, draft.fields⟩) (scanVariant choices s)
  else Read.map (TaggedDraft.mk draft.tag) (fieldStep (scanValue room) draft.fields key s)

/-- Makes the tagged value of a draft. -/
def TaggedDraft.finish : Read TaggedDraft → Read Tagged
  | .error fault => .error fault
  | .ok (⟨some tag, fields⟩, s) => .ok (⟨tag, .object fields.reverse⟩, s)
  | .ok (⟨none, _⟩, s) => .error (Fault.loose (.missingField tagKey) s)

/-- Reads the inside of a tagged array. -/
def scanTaggedItems (choices : List String) (room : Nat) (s : List Char) : Read Tagged :=
  match nextItem true s with
  | .error fault => .error fault
  | .ok none => .error (Fault.loose (.missingField tagKey) s)
  | .ok (some s) =>
    match scanVariant choices s with
    | .error fault => .error fault
    | .ok (tag, s) =>
      Read.map (fun items => ⟨tag, .array items.reverse⟩)
        (foldItems (itemStep (scanValue room)) false [] s)

/-- Reads a tagged value. -/
def scanTagged (title : String) (choices : List String) (room : Nat) (s : List Char) :
    Read Tagged :=
  match skipSpace s with
  | [] => .error (Fault.before .endsInValue [])
  | '[' :: s =>
    match enter room ('[' :: s) with
    | .error fault => .error fault
    | .ok room => inArray (scanTaggedItems choices room s)
  | '\x7b' :: s =>
    match enter room ('\x7b' :: s) with
    | .error fault => .error fault
    | .ok room =>
      inObject (TaggedDraft.finish (foldFields (TaggedDraft.step choices room) ⟨none, []⟩ s))
  | s => .error (wrongKind title s)

/-- The tag that a value gives. -/
def variantOf (choices : List String) : Value → Except Cause String
  | .string name =>
    if choices.contains name then .ok name else .error (.unknownVariant name choices)
  | value => .error (.wrongType value.found "variant identifier")

/-- Takes a value apart into tag and content. -/
def Tagged.ofValue (title : String) (choices : List String) : Value → Except Cause Tagged
  | .object fields =>
    match fields.lookup tagKey with
    | none => .error (.missingField tagKey)
    | some value =>
      match variantOf choices value with
      | .error cause => .error cause
      | .ok tag => .ok ⟨tag, .object (fields.filter (·.1 != tagKey))⟩
  | .array [] => .error (.missingField tagKey)
  | .array (value :: items) =>
    match variantOf choices value with
    | .error cause => .error cause
    | .ok tag => .ok ⟨tag, .array items⟩
  | value => .error (.wrongType value.found title)

/-! ## 2. Values of one kind -/

/-- The text that a value is. -/
def Value.toText : Value → Except Cause String
  | .string text => .ok text
  | value => .error (.wrongType value.found "a string")

/-- The size that a value is. -/
def Value.toSize : Value → Except Cause Nat
  | .number n => sizeOfNumber n
  | value => .error (.wrongType value.found "usize")

/-- The size that a value is, or `none` for `null`. -/
def Value.toOptionalSize : Value → Except Cause (Option Nat)
  | .null => .ok none
  | value => some <$> value.toSize

/-- The texts that are the elements of an array. -/
def Value.toTexts : Value → Except Cause (List String)
  | .array items => items.mapM Value.toText
  | value => .error (.wrongType value.found "a sequence")

/-! ## 3. Variants -/

/-- One field of a variant. -/
structure Part (δ : Type) where
  key : String
  /-- Whether the draft has the field's value. -/
  isFilled : δ → Bool
  /-- Takes the field's value into the draft. -/
  take : δ → Value → Except Cause δ

/-- What the content beside a tag has to be. -/
structure Variant (δ α : Type) where
  title : String
  empty : δ
  parts : List (Part δ)
  complete : δ → Except Cause α

/-- The fault of having elements left over after the first `taken` of `total`. -/
def leftOver (taken total : Nat) : Cause :=
  .wrongLength total s!"{describeElements taken} in sequence"

namespace Variant

variable {δ α : Type}

/-- Takes the fields of an object, in their order; keys that are not known are passed over. -/
def takeFields (parts : List (Part δ)) : δ → List (String × Value) → Except Cause δ
  | draft, [] => .ok draft
  | draft, (key, value) :: fields =>
    match parts.find? (·.key == key) with
    | none => takeFields parts draft fields
    | some part =>
      if part.isFilled draft then .error (.repeatedField key)
      else
        match part.take draft value with
        | .error cause => .error cause
        | .ok draft => takeFields parts draft fields

/-- Takes the elements of an array as the values of `parts`; `count` elements stand before. -/
def takeItems (title : String) (total : Nat) :
    List (Part δ) → Nat → δ → List Value → Except Cause (δ × List Value)
  | [], _, draft, items => .ok (draft, items)
  | _ :: _, count, _, [] =>
    .error (.wrongLength count s!"{title} with {describeElements total}")
  | part :: parts, count, draft, value :: items =>
    match part.take draft value with
    | .error cause => .error cause
    | .ok draft => takeItems title total parts (count + 1) draft items

/-- The value that the content gives. -/
def ofContent (variant : Variant δ α) : Value → Except Cause α
  | .object fields =>
    match takeFields variant.parts variant.empty fields with
    | .error cause => .error cause
    | .ok draft => variant.complete draft
  | .array items =>
    match takeItems variant.title variant.parts.length variant.parts 0 variant.empty items with
    | .error cause => .error cause
    | .ok (draft, []) => variant.complete draft
    | .ok (_, _ :: _) => .error (leftOver variant.parts.length items.length)
  | value => .error (.wrongType value.found variant.title)

end Variant

/-- The value `x` of a variant without fields. Any fields of an object are passed over. -/
def unitOfContent {α : Type} (x : α) : Value → Except Cause α
  | .array (_ :: items) => .error (leftOver 0 (items.length + 1))
  | _ => .ok x

/-- Reads a tagged value whose variants are made by `ofTagged`. -/
def scanVariants {α : Type} (title : String) (choices : List String)
    (ofTagged : Tagged → Except Cause α) (room : Nat) (s : List Char) : Read α :=
  match scanTagged title choices room s with
  | .error fault => .error fault
  | .ok (tagged, s) =>
    match ofTagged tagged with
    | .error cause => .error (Fault.loose cause s)
    | .ok x => .ok (x, s)

end Stagecraft.Json
