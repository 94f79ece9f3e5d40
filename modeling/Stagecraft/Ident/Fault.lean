import Stagecraft.Ident

/-!
# Why a text gives no identifier

A text that is in none of the four forms is looked at once more, to say what is wrong with it:
its length, a character that is no digit, the number of its groups, or the size of one of them.
Lengths and places count bytes of UTF-8. The text looked at is the inside when the length and the
wrapping are those of a braced or named form, and then, as for a text of 36 bytes, the hyphenated
form is taken for granted.
-/

namespace Stagecraft

/-- What is wrong with a text that should give an identifier. -/
inductive IdentFault where
  /-- The character at the byte `place` is no hexadecimal digit. -/
  | character (c : Char) (place : Nat)
  /-- The text has a length of no form. -/
  | length (found : Nat)
  /-- The hyphens part the text into `found` groups. -/
  | groupCount (found : Nat)
  /-- The group has `found` characters. -/
  | groupLength (group : Nat) (expected : Nat) (found : Nat)
deriving DecidableEq

namespace IdentFault

/-- The fault in words. -/
def message : IdentFault → String
  | character c place => s!"invalid character: found `{c}` at {place}"
  | length found => s!"invalid length: found {found}"
  | groupCount found => s!"invalid group count: expected 5, found {found}"
  | groupLength group expected found =>
    s!"invalid group length in group {group}: expected {expected}, found {found}"

end IdentFault

namespace Ident

/-- The number of bytes of `cs` in UTF-8. -/
def byteLength : List Char → Nat
  | [] => 0
  | c :: cs => c.utf8Size + byteLength cs

/-- The places of the hyphens, counted from `place`; a character that is neither a digit nor a
    hyphen is a fault, reported `shift` bytes further on. -/
def hyphenPlaces (shift : Nat) : Nat → List Char → Except IdentFault (List Nat)
  | _, [] => .ok []
  | place, c :: cs =>
    if c = '-' then (place :: ·) <$> hyphenPlaces shift (place + 1) cs
    else if (Hex.value? c).isSome then hyphenPlaces shift (place + 1) cs
    else .error (.character c (place + shift))

/-- The first of the four groups that a hyphen ends whose size is wrong. -/
def wrongGroup? : Nat → List (Nat × Nat) → List Nat → Option IdentFault
  | group, (start, stop) :: bounds, place :: places =>
    if place = stop then wrongGroup? (group + 1) bounds places
    else some (.groupLength group (stop - start) (place - start))
  | _, _, _ => none

/-- Where each of the first four groups starts and stops. -/
def groupBounds : List (Nat × Nat) := [(0, 8), (9, 13), (14, 18), (19, 23)]

/-- What is wrong with `cs`, whose part `inner` after `shift` bytes is to hold the digits.
    `grouped` says that the form has groups even where no hyphen is found. -/
def faultOfPart (cs : List Char) (grouped : Bool) (shift : Nat) (inner : List Char) : IdentFault :=
  match hyphenPlaces shift 0 inner with
  | .error fault => fault
  | .ok places =>
    if !grouped && places.isEmpty then .length (byteLength cs)
    else if places.length ≠ 4 then .groupCount (places.length + 1)
    else (wrongGroup? 0 groupBounds places).getD (.groupLength 4 12 (byteLength cs - 24))

/-- What is wrong with a text of unknown form. -/
def faultOfAny (cs : List Char) : IdentFault :=
  if byteLength cs = 0 ∨ 45 < byteLength cs then .length (byteLength cs)
  else
    match inBraces? cs with
    | some inner => faultOfPart cs true 1 inner
    | none =>
      if hasNamePrefix cs then faultOfPart cs true 9 (cs.drop 9)
      else faultOfPart cs false 0 cs

/-- What is wrong with a text that gives no identifier. -/
def faultOf (cs : List Char) : IdentFault :=
  if byteLength cs = 36 then faultOfPart cs true 0 cs
  else
    match inBraces? cs with
    | some inner => if byteLength cs = 38 then faultOfPart inner true 0 inner else faultOfAny cs
    | none =>
      if byteLength cs = 45 ∧ hasNamePrefix cs then faultOfPart (cs.drop 9) true 0 (cs.drop 9)
      else faultOfAny cs

/-- The identifier that a text gives, or what is wrong with the text. -/
def read (text : String) : Except IdentFault Ident :=
  match ofText? text with
  | some x => .ok x
  | none => .error (faultOf text.toList)

end Ident

/-- The actor's identifier that a text gives, or what is wrong with the text. -/
def ActorId.read (text : String) : Except IdentFault ActorId :=
  ActorId.mk <$> Ident.read text

/-- The handler's identifier that a text gives, or what is wrong with the text. -/
def HandlerId.read (text : String) : Except IdentFault HandlerId :=
  HandlerId.mk <$> Ident.read text

end Stagecraft
