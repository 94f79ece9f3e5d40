import Mathlib.Algebra.Ring.Nat
import Stagecraft.Ident.Fault

/-!
# Identifiers are read back

The text of an identifier is in the hyphenated form, and reading it gives the identifier.

* `Hex.number?_digits`: the digits of a number write that number;
* `Ident.unhyphenate?_hyphenate`: groups that were joined by hyphens are taken apart again;
* `Ident.read_text` is about identifiers.
-/

namespace Stagecraft

/-! ## 1. Digits -/

namespace Hex

/-- A digit is read as what it was written for. -/
theorem value?_digit {d : Nat} (h : d < 16) : value? (digit d) = some d := by
  have hall : ∀ d < 16, value? (digit d) = some d := by decide
  exact hall d h

theorem numberFrom?_append (high : Nat) (front back : List Char) :
    numberFrom? high (front ++ back) = (numberFrom? high front).bind (numberFrom? · back) := by
  induction front generalizing high with
  | nil => rfl
  | cons c front ih =>
      simp only [List.cons_append, numberFrom?]
      cases value? c with
      | none => rfl
      | some d => exact ih (16 * high + d)

/-- **The digits of a number write that number**, if there are enough of them. -/
theorem number?_digits {width n : Nat} (h : n < 16 ^ width) :
    number? (digits width n) = some n := by
  induction width generalizing n with
  | zero =>
      obtain rfl : n = 0 := by omega
      rfl
  | succ width ih =>
      have hfront : n / 16 < 16 ^ width := by
        rw [Nat.pow_succ] at h
        omega
      have hlast : value? (digit (n % 16)) = some (n % 16) := value?_digit (Nat.mod_lt n (by omega))
      have hrest : number? (digits width (n / 16)) = some (n / 16) := ih hfront
      unfold number? at hrest ⊢
      rw [digits, numberFrom?_append, hrest]
      simp only [Option.bind_some, numberFrom?, hlast, Nat.div_add_mod]

end Hex

namespace Ident

/-! ## 2. Groups -/

theorem length_hyphenate : ∀ (sizes : List Nat) (cs : List Char),
    sizes.sum = cs.length → (hyphenate sizes cs).length = cs.length + (sizes.length - 1)
  | [], _, _ => rfl
  | [_], _, _ => rfl
  | size :: next :: sizes, cs, h => by
      have hsize : size ≤ cs.length := by
        rw [List.sum_cons] at h
        omega
      have hrest : (next :: sizes).sum = (cs.drop size).length := by
        rw [List.sum_cons] at h
        rw [List.length_drop]
        omega
      have ih := length_hyphenate (next :: sizes) (cs.drop size) hrest
      simp only [hyphenate, List.length_append, List.length_cons, ih, List.length_take,
        List.length_drop]
      omega

/-- **Groups that were joined by hyphens are taken apart again.** -/
theorem unhyphenate?_hyphenate : ∀ (sizes : List Nat) (cs : List Char),
    sizes.sum = cs.length → unhyphenate? sizes (hyphenate sizes cs) = some cs
  | [], cs, h => by
      obtain rfl : cs = [] := List.length_eq_zero_iff.mp h.symm
      rfl
  | [size], cs, h => by
      have hlength : cs.length = size := by simpa using h.symm
      simp [hyphenate, unhyphenate?, hlength]
  | size :: next :: sizes, cs, h => by
      have hsize : size ≤ cs.length := by
        rw [List.sum_cons] at h
        omega
      have hrest : (next :: sizes).sum = (cs.drop size).length := by
        rw [List.sum_cons] at h
        rw [List.length_drop]
        omega
      have ih := unhyphenate?_hyphenate (next :: sizes) (cs.drop size) hrest
      have htake : (cs.take size).length = size := by
        rw [List.length_take]
        omega
      -- the hyphen stands directly behind the first group
      simp only [hyphenate, unhyphenate?]
      rw [List.drop_append_of_le_length (Nat.le_of_eq htake.symm),
        List.drop_of_length_le (Nat.le_of_eq htake),
        List.take_append_of_le_length (Nat.le_of_eq htake.symm),
        List.take_of_length_le (Nat.le_of_eq htake)]
      simp only [List.nil_append, ih, Option.map_some, List.take_append_drop]

/-! ## 3. Identifiers -/

/-- The text of an identifier is in the second form. -/
theorem length_text (x : Ident) : x.text.toList.length = 36 := by
  have hlength : groupSizes.sum = x.digits.length := (Hex.length_digits 32 x.toNat).symm
  rw [text, String.toList_ofList, length_hyphenate groupSizes x.digits hlength, ← hlength]
  rfl

theorem digits?_text (x : Ident) : digits? x.text.toList = some x.digits := by
  have hlength : groupSizes.sum = x.digits.length := (Hex.length_digits 32 x.toNat).symm
  have htext : x.text.toList.length = 36 := length_text x
  unfold digits?
  rw [if_neg (by omega), if_pos htext, text, String.toList_ofList,
    unhyphenate?_hyphenate _ _ hlength]

theorem ofText?_text (x : Ident) : ofText? x.text = some x := by
  have hlt : x.toNat < 16 ^ 32 := x.isLt
  rw [ofText?, digits?_text, Option.bind_some, digits, Hex.number?_digits hlt, Option.map_some,
    BitVec.ofNat_toNat, BitVec.setWidth_eq]

/-- **An identifier is read back** from its text. -/
theorem read_text (x : Ident) : Ident.read x.text = .ok x := by
  rw [read, ofText?_text]

/-- No two identifiers have the same text. -/
theorem text_injective : Function.Injective text := by
  intro x y h
  have hread : some x = some y := by rw [← ofText?_text, ← ofText?_text, h]
  exact Option.some.inj hread

end Ident

end Stagecraft
