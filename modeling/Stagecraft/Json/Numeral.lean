import Stagecraft.Json.Fault

/-!
# Numerals

`scanNumber` reads a number after its sign. A whole number of 64 bits is kept exactly; every other
numeral stands for a float, and one beyond the largest float is a fault. The significand has 64
bits: digits that no longer fit count for the power of ten only. `skipNumber` passes over a
numeral of any size.
-/

namespace Stagecraft.Json

/-! ## 1. Digits -/

/-- The value of a decimal digit. -/
def digit? (c : Char) : Option Nat :=
  if c.isDigit then some (c.toNat - 48) else none

/-- Whether a text goes on with a digit. -/
def startsWithDigit : List Char → Bool
  | [] => false
  | c :: _ => c.isDigit

/-- Passes over digits, and counts them from `count` on. -/
def dropDigits (count : Nat) : List Char → Nat × List Char
  | [] => (count, [])
  | c :: cs => if c.isDigit then dropDigits (count + 1) cs else (count, c :: cs)

/-- The number that digits continue from `n`, as long as it stays below `bound`; also how many
    digits it took, counted from `count` on, and the rest. -/
def takeDigits (bound n count : Nat) : List Char → Nat × Nat × List Char
  | [] => (n, count, [])
  | c :: cs =>
    match digit? c with
    | some d =>
      if 10 * n + d < bound then takeDigits bound (10 * n + d) (count + 1) cs
      else (n, count, c :: cs)
    | none => (n, count, c :: cs)

/-! ## 2. Reading -/

/-- Significands, and whole numbers without sign, stay below 2^64. -/
def significandBound : Nat := 0x10000000000000000

/-- Whole numbers with a minus sign go down to -2^63. -/
def negativeBound : Nat := 0x8000000000000000

/-- Written powers of ten stay below 2^31. -/
def powerBound : Nat := 0x80000000

/-- Ends a numeral that stands for a float, before `rest`. -/
def endScaled (negative : Bool) (significand : Nat) (exponent : Int) (rest : List Char) :
    Read Number :=
  match Number.float? significand exponent with
  | some _ => .ok (.scaled negative significand exponent, rest)
  | none => .error (Fault.before .numberOutOfRange rest)

/-- The sign of a power of ten, `true` if negative. -/
def takeSign : List Char → Bool × List Char
  | '+' :: rest => (false, rest)
  | '-' :: rest => (true, rest)
  | rest => (false, rest)

/-- A power of ten, after its letter. -/
def scanPower (negative : Bool) (significand : Nat) (exponent : Int) (s : List Char) :
    Read Number :=
  let (down, s) := takeSign s
  match s with
  | [] => .error (Fault.before .endsInValue [])
  | c :: _ =>
    if c.isDigit then
      let (power, _, rest) := takeDigits powerBound 0 0 s
      if startsWithDigit rest then
        if significand ≠ 0 ∧ !down then .error (Fault.before .numberOutOfRange (rest.drop 1))
        else .ok (.scaled negative 0 0, (dropDigits 0 rest).2)
      else endScaled negative significand (if down then exponent - power else exponent + power) rest
    else .error (Fault.upon .badNumber s)

/-- What may follow the digits of a float: a power of ten or nothing. -/
def scanAfterFraction (negative : Bool) (significand : Nat) (exponent : Int) : Scan Number
  | 'e' :: rest => scanPower negative significand exponent rest
  | 'E' :: rest => scanPower negative significand exponent rest
  | rest => endScaled negative significand exponent rest

/-- The digits after a point. -/
def scanFraction (negative : Bool) (significand : Nat) (exponent : Int) (s : List Char) :
    Read Number :=
  let (n, count, rest) := takeDigits significandBound significand 0 s
  if startsWithDigit rest then
    scanAfterFraction negative n (exponent - count) (dropDigits 0 rest).2
  else if count = 0 then
    if rest.isEmpty then .error (Fault.before .endsInValue [])
    else .error (Fault.upon .badNumber rest)
  else scanAfterFraction negative n (exponent - count) rest

/-- A whole number of 64 bits; beyond them, and for a negative zero, a float. -/
def wholeNumber (negative : Bool) (n : Nat) : Number :=
  if !negative then .whole n
  else if n = 0 ∨ negativeBound < n then .scaled true n 0
  else .whole (-(n : Int))

/-- What may follow the digits of a whole number that fits. -/
def scanAfterWhole (negative : Bool) (n : Nat) : Scan Number
  | '.' :: rest => scanFraction negative n 0 rest
  | 'e' :: rest => scanPower negative n 0 rest
  | 'E' :: rest => scanPower negative n 0 rest
  | rest => .ok (wholeNumber negative n, rest)

/-- What may follow the digits of a whole number that does not fit. -/
def scanAfterLong (negative : Bool) (n : Nat) (exponent : Int) : Scan Number
  | '.' :: rest => scanFraction negative n exponent rest
  | rest => scanAfterFraction negative n exponent rest

/-- A number, after its sign. -/
def scanNumber (negative : Bool) : Scan Number
  | [] => .error (Fault.before .endsInValue [])
  | '0' :: rest =>
    if startsWithDigit rest then .error (Fault.upon .badNumber rest)
    else scanAfterWhole negative 0 rest
  | s =>
    if startsWithDigit s then
      let (n, _, rest) := takeDigits significandBound 0 0 s
      if startsWithDigit rest then
        let (more, rest) := dropDigits 0 rest
        scanAfterLong negative n more rest
      else scanAfterWhole negative n rest
    else .error (Fault.upon .badNumber s)

/-! ## 3. Passing over -/

/-- Passes over a power of ten, after its letter. -/
def skipPower (s : List Char) : Except Fault (List Char) :=
  let s := (takeSign s).2
  if startsWithDigit s then .ok (dropDigits 0 s).2 else .error (Fault.upon .badNumber s)

/-- Passes over a power of ten, if there is one. -/
def skipAfterFraction : List Char → Except Fault (List Char)
  | 'e' :: rest => skipPower rest
  | 'E' :: rest => skipPower rest
  | rest => .ok rest

/-- Passes over what may follow the digits of a whole number. -/
def skipAfterWhole : List Char → Except Fault (List Char)
  | '.' :: rest =>
    if startsWithDigit rest then skipAfterFraction (dropDigits 0 rest).2
    else .error (Fault.upon .badNumber rest)
  | rest => skipAfterFraction rest

/-- Passes over a number, after its sign. -/
def skipNumber : List Char → Except Fault (List Char)
  | '0' :: rest =>
    if startsWithDigit rest then .error (Fault.upon .badNumber rest) else skipAfterWhole rest
  | s =>
    if startsWithDigit s then skipAfterWhole (dropDigits 0 s).2
    else .error (Fault.upon .badNumber s)

end Stagecraft.Json
