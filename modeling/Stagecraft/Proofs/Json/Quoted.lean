import Stagecraft.Json.Quoted
import Stagecraft.Proofs.Ident.Text

/-!
# Strings are read back

Whatever characters a string holds, it is read from its quoted form, and what stands behind the
closing quote is left.

* `scanChar_quotedChar`: one character, escaped or not;
* `scanChars_quoted`: the loop, by induction on the characters that are still to come;
* `scanString_quoted` is about strings.
-/

namespace Stagecraft.Json

/-! ## 1. Characters -/

theorem quotedChar_ne_nil (c : Char) : quotedChar c ≠ [] := by
  unfold quotedChar
  repeat' split
  all_goals simp

theorem scanChar_plainEscape {c e x : Char} (hc : c = x) (h : plainEscape? e = some x)
    (rest : List Char) : scanChar ('\\' :: e :: rest) = .ok (some c, rest) := by
  have hu : e ≠ 'u' := by
    rintro rfl
    cases h
  have hescape : scanEscape (e :: rest) = .ok (x, rest) := by
    rw [scanEscape, h]
    exact fun hno => hu hno
  simp [scanChar, hescape, hc]

theorem scanHex_digits {n : Nat} (h : n < 16 ^ 4) (rest : List Char) :
    scanHex (Hex.digits 4 n ++ rest) = .ok (n, rest) := by
  have hnumber := Hex.number?_digits h
  simp only [Hex.digits, List.nil_append, List.cons_append] at hnumber ⊢
  rw [scanHex, hnumber]

/-- A control character, escaped by its number. -/
theorem scanChar_numbered {c : Char} (h : c.toNat < 0x20) (rest : List Char) :
    scanChar ('\\' :: 'u' :: (Hex.digits 4 c.toNat ++ rest)) = .ok (some c, rest) := by
  have hlow : isLowSurrogate c.toNat = false := by
    rw [isLowSurrogate, Bool.and_eq_false_iff, decide_eq_false_iff_not]
    omega
  have hhigh : isHighSurrogate c.toNat = false := by
    rw [isHighSurrogate, Bool.and_eq_false_iff, decide_eq_false_iff_not]
    omega
  have hhex : scanHex (Hex.digits 4 c.toNat ++ rest) = .ok (c.toNat, rest) :=
    scanHex_digits (by omega) rest
  simp [scanChar, scanEscape, scanNumbered, hhex, hlow, hhigh, Char.ofNat_toNat]

/-- **A character is read back** from what stands for it in a string. -/
theorem scanChar_quotedChar (c : Char) (rest : List Char) :
    scanChar (quotedChar c ++ rest) = .ok (some c, rest) := by
  unfold quotedChar
  -- the escapes by a letter come first, in the order in which they are tried
  split
  next h => exact scanChar_plainEscape h rfl rest
  next hquote =>
    split
    next h => exact scanChar_plainEscape h rfl rest
    next hbackslash =>
      split
      next h => exact scanChar_plainEscape h rfl rest
      split
      next h => exact scanChar_plainEscape h rfl rest
      split
      next h => exact scanChar_plainEscape h rfl rest
      split
      next h => exact scanChar_plainEscape h rfl rest
      split
      next h => exact scanChar_plainEscape h rfl rest
      split
      next h => exact scanChar_numbered h rest
      next h => simp [scanChar, hquote, hbackslash, h]

/-! ## 2. Strings -/

theorem length_le_flatMap_quotedChar (cs : List Char) :
    cs.length ≤ (cs.flatMap quotedChar).length := by
  induction cs with
  | nil => exact Nat.le_refl 0
  | cons c cs ih =>
      have hone : 0 < (quotedChar c).length := List.length_pos_iff.mpr (quotedChar_ne_nil c)
      rw [List.flatMap_cons, List.length_append, List.length_cons]
      omega

theorem scanChars_quoted (cs rest : List Char) : ∀ (fuel : Nat) (done : List Char),
    cs.length < fuel →
      scanChars fuel done (cs.flatMap quotedChar ++ '"' :: rest) =
        .ok (done.reverse ++ cs, rest) := by
  induction cs with
  | nil =>
      intro fuel done hfuel
      cases fuel with
      | zero => exact absurd hfuel (Nat.lt_irrefl 0)
      | succ fuel => simp [scanChars, scanChar]
  | cons c cs ih =>
      intro fuel done hfuel
      cases fuel with
      | zero => exact absurd hfuel (Nat.not_lt_zero _)
      | succ fuel =>
          have hnext := ih fuel (c :: done) (Nat.lt_of_succ_lt_succ hfuel)
          rw [List.flatMap_cons, List.append_assoc, scanChars, scanChar_quotedChar]
          simpa using hnext

/-- **A string is read back**, after its opening quote. -/
theorem scanString_quoted (text : String) (rest : List Char) :
    scanString (text.toList.flatMap quotedChar ++ '"' :: rest) = .ok (text, rest) := by
  have hfuel : text.toList.length <
      (text.toList.flatMap quotedChar ++ '"' :: rest).length + 1 := by
    have hlength := length_le_flatMap_quotedChar text.toList
    rw [List.length_append]
    omega
  unfold scanString
  rw [scanChars_quoted text.toList rest _ [] hfuel, List.reverse_nil, List.nil_append]
  dsimp only
  rw [String.ofList_toList]

theorem quoteChars_append (cs rest : List Char) :
    quoteChars cs ++ rest = '"' :: (cs.flatMap quotedChar ++ '"' :: rest) := by
  simp [quoteChars]

end Stagecraft.Json
