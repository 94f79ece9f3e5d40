import Stagecraft.Text.Hex

/-!
# Identifiers

An identifier is a 128-bit word. Actors and handlers have identifiers of types of their own, so
that one cannot stand for the other.

* `Ident.text` writes the thirty-two digits in groups of 8, 4, 4, 4 and 12, joined by hyphens;
* `Ident.digits?` names the four forms in which an identifier may be given, and yields the
  thirty-two digits of a text in one of them;
* the order of identifiers is the order of their words.
-/

namespace Stagecraft

/-- A 128-bit identifier. -/
abbrev Ident := BitVec 128

/-- Identifies an actor: the stage or a sprite. -/
structure ActorId where
  ident : Ident
deriving DecidableEq

/-- Identifies a handler, over the whole program. -/
structure HandlerId where
  ident : Ident
deriving DecidableEq

namespace Ident

/-! ## 1. Groups of digits -/

/-- The sizes of the groups of digits in the hyphenated form. -/
def groupSizes : List Nat := [8, 4, 4, 4, 12]

/-- `cs` cut into groups of the given sizes, with a hyphen between any two groups. What is left
    over stays in the last group. -/
def hyphenate : List Nat → List Char → List Char
  | [], cs => cs
  | [_], cs => cs
  | size :: sizes, cs => cs.take size ++ '-' :: hyphenate sizes (cs.drop size)

/-- The characters of groups of exactly the given sizes, with a hyphen between any two groups. -/
def unhyphenate? : List Nat → List Char → Option (List Char)
  | [], cs => if cs.isEmpty then some [] else none
  | [size], cs => if cs.length = size then some cs else none
  | size :: sizes, cs =>
    match cs.drop size with
    | '-' :: rest => (unhyphenate? sizes rest).map (cs.take size ++ ·)
    | _ => none

/-! ## 2. Writing -/

/-- The thirty-two digits of an identifier. -/
def digits (x : Ident) : List Char :=
  Hex.digits 32 x.toNat

/-- An identifier as text. -/
def text (x : Ident) : String :=
  String.ofList (hyphenate groupSizes x.digits)

/-! ## 3. Reading -/

/-- What stands before the digits of an identifier given as a name. -/
def namePrefix : List Char := ['u', 'r', 'n', ':', 'u', 'u', 'i', 'd', ':']

/-- Whether `cs` begins with `namePrefix`, in either case. -/
def hasNamePrefix (cs : List Char) : Bool :=
  (cs.take 9).map Char.toLower == namePrefix

/-- The inside of a text in braces. -/
def inBraces? : List Char → Option (List Char)
  | '{' :: rest => if rest.getLast? = some '}' then some rest.dropLast else none
  | _ => none

/-- The thirty-two characters that are to be digits in a text of one of the four forms: plain,
    hyphenated, hyphenated in braces, hyphenated after `namePrefix`. -/
def digits? (cs : List Char) : Option (List Char) :=
  if cs.length = 32 then some cs
  else if cs.length = 36 then unhyphenate? groupSizes cs
  else if cs.length = 38 then (inBraces? cs).bind (unhyphenate? groupSizes)
  else if cs.length = 45 ∧ hasNamePrefix cs then unhyphenate? groupSizes (cs.drop 9)
  else none

/-- The identifier that a text gives, if it gives one. -/
def ofText? (text : String) : Option Ident :=
  ((digits? text.toList).bind Hex.number?).map (BitVec.ofNat 128)

/-! ## 4. Order -/

/-- `x` put into an ascending list, unless it is there already. -/
def insertAscending (x : Ident) : List Ident → List Ident
  | [] => [x]
  | y :: ys => if x < y then x :: y :: ys else if x = y then y :: ys else y :: insertAscending x ys

/-- The identifiers of a list in ascending order, each once. -/
def ascending (ids : List Ident) : List Ident :=
  ids.foldr insertAscending []

end Ident

/-- An actor's identifier as text. -/
def ActorId.text (id : ActorId) : String := id.ident.text

/-- A handler's identifier as text. -/
def HandlerId.text (id : HandlerId) : String := id.ident.text

end Stagecraft
