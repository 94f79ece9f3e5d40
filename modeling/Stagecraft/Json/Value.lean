import Stagecraft.Decimal.Shortest

/-!
# JSON values

A number is kept as it was written: a whole number, or a significand of up to twenty digits with a
power of ten, which stands for a float. The fields of an object keep their order, and a key may
occur more than once.
-/

namespace Stagecraft.Json

/-- A number as it was written. -/
inductive Number where
  /-- A whole number. -/
  | whole (n : Int)
  /-- The float nearest to `± significand · 10^exponent`. -/
  | scaled (negative : Bool) (significand : Nat) (exponent : Int)
deriving DecidableEq

/-- A JSON value. -/
inductive Value where
  | null
  | bool (b : Bool)
  | number (n : Number)
  | string (text : String)
  | array (items : List Value)
  | object (fields : List (String × Value))

namespace Number

/-- Floats in messages have a point while they lie between `10^-5` and `10^16`. -/
def style : Decimal.Style := ⟨-5, 15⟩

/-- `10^k` as a float, for `k` up to 308. -/
def powerOfTen (k : Nat) : Float :=
  Float.ofScientific 1 false k

/-- `x · 10^exponent` by one multiplication or division, after as many divisions by `10^308` as
    needed; `none` beyond the largest float. -/
def scale : Nat → Float → Int → Option Float
  | 0, x, _ => some x
  | fuel + 1, x, exponent =>
    if exponent.natAbs ≤ 308 then
      if 0 ≤ exponent then
        let y := x * powerOfTen exponent.natAbs
        if y.isInf then none else some y
      else some (x / powerOfTen exponent.natAbs)
    else if x == 0 then some x
    else if 0 ≤ exponent then none
    else scale fuel (x / powerOfTen 308) (exponent + 308)

/-- The float that `significand · 10^exponent` gives, `none` if it is out of range. Three
    divisions by `10^308` bring every significand to zero. -/
def float? (significand : Nat) (exponent : Int) : Option Float :=
  scale 5 significand.toUInt64.toFloat exponent

/-- A number as text. -/
def text : Number → String
  | whole n => toString n
  | scaled negative significand exponent =>
    let x := (float? significand exponent).getD 0
    Decimal.render style (if negative then -x else x)

end Number

namespace Value

/-- A natural number as a value. -/
def ofNat (n : Nat) : Value :=
  .number (.whole n)

/-- A list of texts as a value. -/
def ofTexts (texts : List String) : Value :=
  .array (texts.map .string)

/-- The first field of an object with the given key. -/
def field? (key : String) : Value → Option Value
  | .object fields => fields.lookup key
  | _ => none

end Value

end Stagecraft.Json
