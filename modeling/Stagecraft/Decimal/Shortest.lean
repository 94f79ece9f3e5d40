/-!
# The shortest decimal of a binary number

A finite binary number `m · 2^q` is written with the fewest decimal digits that read back as the
same number, and among those with the digits nearest to it; in the middle between two, the last
digit is even.

* `Binary` is the number taken apart; `Binary.ofFloat` takes it from the bits of a float;
* `Binary.shortest` finds the digits: on the grids of 1, 2, … 17 digits it tries the number's two
  neighbours, and the first grid with a neighbour that rounds to the number wins;
* `Style` says how digits are set out, and `Decimal.render` sets them out.

All comparisons are exact, in natural numbers.
-/

namespace Stagecraft.Decimal

/-! ## 1. Comparing powers of two and ten -/

/-- `x · 2^a · 10^b`, where negative powers count as `1`. -/
def scaleUp (x : Nat) (a b : Int) : Nat :=
  x * Nat.pow 2 a.toNat * Nat.pow 10 b.toNat

/-- Whether `x · 2^a ≤ y · 10^b`. -/
def twoLeTen (x : Nat) (a : Int) (y : Nat) (b : Int) : Bool :=
  scaleUp x a (-b) ≤ scaleUp y (-a) b

/-- Whether `y · 10^b ≤ x · 2^a`. -/
def tenLeTwo (y : Nat) (b : Int) (x : Nat) (a : Int) : Bool :=
  scaleUp y (-a) b ≤ scaleUp x a (-b)

/-- The whole part of `x · 2^a / 10^b`. -/
def quotient (x : Nat) (a : Int) (b : Int) : Nat :=
  scaleUp x a (-b) / scaleUp 1 (-a) b

/-! ## 2. Binary numbers -/

/-- The positive number `mantissa · 2^exponent`; `narrow` says that the next smaller number is
    only half as far away as the next larger one. -/
structure Binary where
  mantissa : Nat
  exponent : Int
  narrow : Bool

namespace Binary

/-- The bit above the 52 bits of a float's fraction. -/
def hiddenBit : Nat := 0x10000000000000

/-- The magnitude of a finite float, `none` for zero. -/
def ofFloat (x : Float) : Option Binary :=
  let bits := x.toBits.toNat
  let fraction : Nat := bits % hiddenBit
  let power : Nat := bits / hiddenBit % 0x800
  if power = 0 then
    if fraction = 0 then none else some ⟨fraction, -1074, false⟩
  else some ⟨hiddenBit + fraction, Int.ofNat power - 1075, fraction = 0 && power > 1⟩

/-- Whether `d · 10^k` rounds to `x`: it lies between the middles to the neighbours of `x`, or is
    such a middle and the mantissa is even. -/
def roundsTo (x : Binary) (d : Nat) (k : Int) : Bool :=
  let low := if x.narrow then 4 * x.mantissa - 1 else 4 * x.mantissa - 2
  let high := 4 * x.mantissa + 2
  let unit := x.exponent - 2
  if x.mantissa % 2 = 0 then twoLeTen low unit d k && tenLeTwo d k high unit
  else !tenLeTwo d k low unit && !twoLeTen high unit d k

/-- The greatest `e` with `10^e ≤ x`. -/
def magnitude (x : Binary) : Int :=
  let guess := ((x.mantissa.log2 : Int) + x.exponent) * 30103 / 100000 + 1
  if tenLeTwo 1 guess x.mantissa x.exponent then guess
  else if tenLeTwo 1 (guess - 1) x.mantissa x.exponent then guess - 1
  else guess - 2

/-- Whether `d · 10^k` is nearer to `x` than `(d + 1) · 10^k`, or as near and even. -/
def isLowerNearer (x : Binary) (d : Nat) (k : Int) : Bool :=
  !tenLeTwo (2 * d + 1) k (2 * x.mantissa) x.exponent
    || (twoLeTen (2 * x.mantissa) x.exponent (2 * d + 1) k && d % 2 == 0)

/-- The neighbour of `x` on the grid of multiples of `10^k` that rounds to `x`, the nearer if
    both do. -/
def neighbour? (x : Binary) (k : Int) : Option Nat :=
  let d := quotient x.mantissa x.exponent k
  match roundsTo x d k, roundsTo x (d + 1) k with
  | true, true => if x.isLowerNearer d k then some d else some (d + 1)
  | true, false => some d
  | false, true => some (d + 1)
  | false, false => none

/-- Tries the grids of `count` digits and more. -/
def shortestFrom (x : Binary) : Nat → Nat → Nat × Int
  | 0, count => (quotient x.mantissa x.exponent (x.magnitude - count + 1), x.magnitude - count + 1)
  | fuel + 1, count =>
    let k := x.magnitude - count + 1
    match x.neighbour? k with
    | some d => (d, k)
    | none => shortestFrom x fuel (count + 1)

/-- The shortest digits `d` and their exponent `k`: `x` is written `d · 10^k`. -/
def shortest (x : Binary) : Nat × Int :=
  shortestFrom x 17 1

end Binary

/-! ## 3. Setting out digits -/

/-- Digits are set out with a point while the exponent of the first one lies from `least` to
    `greatest`, both included, and with a power of ten beyond. -/
structure Style where
  least : Int
  greatest : Int

/-- Drops the zeros at the end of a number's digits. -/
def dropZeros (ds : List Char) : List Char :=
  (ds.reverse.dropWhile (· = '0')).reverse

/-- The text of `0.d₁d₂… · 10^(e + 1)`, in the given style. A whole number keeps `.0`, and a
    power of ten carries its sign. -/
def setOut (style : Style) (ds : List Char) (e : Int) : List Char :=
  if 0 ≤ e ∧ e ≤ style.greatest then
    let whole := e.toNat + 1
    if ds.length ≤ whole then ds ++ List.replicate (whole - ds.length) '0' ++ ['.', '0']
    else ds.take whole ++ '.' :: ds.drop whole
  else if style.least ≤ e ∧ e < 0 then
    ['0', '.'] ++ List.replicate ((-e).toNat - 1) '0' ++ ds
  else
    let sign := if e < 0 then '-' else '+'
    let head := if ds.length ≤ 1 then ds else ds.take 1 ++ '.' :: ds.drop 1
    head ++ 'e' :: sign :: Nat.toDigits 10 e.natAbs

/-- The text of a finite float. -/
def render (style : Style) (x : Float) : String :=
  let sign := if 0x8000000000000000 ≤ x.toBits.toNat then ['-'] else []
  match Binary.ofFloat x with
  | none => String.ofList (sign ++ ['0', '.', '0'])
  | some b =>
    let (d, k) := b.shortest
    let ds := Nat.toDigits 10 d
    String.ofList (sign ++ setOut style (dropZeros ds) (k + ds.length - 1))

end Stagecraft.Decimal
