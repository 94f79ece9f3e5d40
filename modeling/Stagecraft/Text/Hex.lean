/-!
# Hexadecimal digits

* `digit` and `value?`: one digit, written in lower case and read in either case;
* `digits width n`: the last `width` digits of `n`, the most significant first;
* `number? cs`: the number that a list of digits writes.
-/

namespace Stagecraft.Hex

/-- The lower-case digit of `d < 16`. -/
def digit (d : Nat) : Char :=
  if d < 10 then Char.ofNat (48 + d) else Char.ofNat (87 + d)

/-- The value of a digit of either case, `none` for any other character. -/
def value? (c : Char) : Option Nat :=
  if 48 ≤ c.toNat ∧ c.toNat ≤ 57 then some (c.toNat - 48)
  else if 97 ≤ c.toNat ∧ c.toNat ≤ 102 then some (c.toNat - 87)
  else if 65 ≤ c.toNat ∧ c.toNat ≤ 70 then some (c.toNat - 55)
  else none

/-- The last `width` digits of `n`, the most significant first. -/
def digits : Nat → Nat → List Char
  | 0, _ => []
  | width + 1, n => digits width (n / 16) ++ [digit (n % 16)]

/-- The number that `cs` continues from `high`, if all of `cs` are digits. -/
def numberFrom? (high : Nat) : List Char → Option Nat
  | [] => some high
  | c :: cs =>
    match value? c with
    | some d => numberFrom? (16 * high + d) cs
    | none => none

/-- The number that `cs` writes, if all of `cs` are digits. -/
def number? (cs : List Char) : Option Nat :=
  numberFrom? 0 cs

theorem length_digits : ∀ width n : Nat, (digits width n).length = width
  | 0, _ => rfl
  | width + 1, n => by simp [digits, length_digits width]

end Stagecraft.Hex
