import Mathlib.Data.List.Induction
import Stagecraft.Proofs.Ident.Text

/-!
# Which texts give an identifier

A text gives an identifier if it holds thirty-two hexadecimal digits, of either case, in one of
four forms. The identifier's own text is then the hyphenated form of the same digits in lower case.

* `Hex.number?_eq_some_iff`: what a list of characters writes is told by its digits in lower case;
* `Ident.Written`: the four forms, and `Ident.digits?_eq_some_iff`, which says that they are
  recognised;
* `Ident.read_eq_ok_iff`: an identifier is read exactly from a numeral in one of the forms.
-/

namespace Stagecraft

/-! ## 1. Digits of either case -/

/-- What holds of the characters with small codes, one by one, holds of each that has such a
    code. -/
theorem forall_of_toNat_lt {bound : Nat} {P : Char → Prop} (h : ∀ n < bound, P (Char.ofNat n))
    {c : Char} (hc : c.toNat < bound) : P c := by
  have hchar := h c.toNat hc
  rwa [Char.ofNat_toNat] at hchar

namespace Hex

variable {c : Char} {cs : List Char} {d n : Nat}

/-- A hexadecimal digit of either case. -/
def IsDigit (c : Char) : Prop :=
  ('0' ≤ c ∧ c ≤ '9') ∨ ('a' ≤ c ∧ c ≤ 'f') ∨ ('A' ≤ c ∧ c ≤ 'F')

instance : DecidablePred IsDigit := fun c => inferInstanceAs (Decidable
  (('0' ≤ c ∧ c ≤ '9') ∨ ('a' ≤ c ∧ c ≤ 'f') ∨ ('A' ≤ c ∧ c ≤ 'F')))

theorem isDigit_iff_toNat : IsDigit c ↔ (48 ≤ c.toNat ∧ c.toNat ≤ 57) ∨
    (97 ≤ c.toNat ∧ c.toNat ≤ 102) ∨ (65 ≤ c.toNat ∧ c.toNat ≤ 70) :=
  Iff.rfl

theorem isSome_value?_iff : (value? c).isSome ↔ IsDigit c := by
  rw [isDigit_iff_toNat]
  unfold value?
  split
  next h => exact iff_of_true rfl (.inl h)
  next hdecimal =>
    split
    next h => exact iff_of_true rfl (.inr (.inl h))
    next hlower =>
      split
      next h => exact iff_of_true rfl (.inr (.inr h))
      next hupper => exact iff_of_false Bool.false_ne_true fun h => by tauto

theorem isDigit_of_mem_digits : ∀ width n : Nat, ∀ c ∈ digits width n, IsDigit c
  | 0, _, _, h => absurd h List.not_mem_nil
  | width + 1, n, c, h => by
      rcases List.mem_append.mp h with hfront | hlast
      · exact isDigit_of_mem_digits width (n / 16) c hfront
      · obtain rfl := List.mem_singleton.mp hlast
        refine isSome_value?_iff.mp ?_
        rw [value?_digit (Nat.mod_lt n (by omega))]
        rfl

/-- A digit that is read is written again as itself in lower case. -/
theorem digit_of_value? (h : value? c = some d) : d < 16 ∧ digit d = c.toLower := by
  have hsmall : c.toNat < 128 := by
    have hdigit : IsDigit c := isSome_value?_iff.mp (Option.isSome_of_eq_some h)
    rcases isDigit_iff_toNat.mp hdigit with hc | hc | hc <;> omega
  have hall : ∀ n < 128, ∀ d ∈ value? (Char.ofNat n),
      d < 16 ∧ digit d = (Char.ofNat n).toLower := by
    decide
  exact forall_of_toNat_lt (P := fun c => ∀ d ∈ value? c, d < 16 ∧ digit d = c.toLower)
    hall hsmall d h

/-- What digits write has them as its digits, in lower case. By induction from the last one on. -/
theorem digits_of_number? (h : number? cs = some n) :
    n < 16 ^ cs.length ∧ digits cs.length n = cs.map Char.toLower := by
  induction cs using List.reverseRecOn generalizing n with
  | nil =>
      cases h
      exact ⟨Nat.one_pos, rfl⟩
  | append_singleton cs c ih =>
      rw [number?, numberFrom?_append, Option.bind_eq_some_iff] at h
      obtain ⟨high, hhigh, hlast⟩ := h
      obtain ⟨hlt, hdigits⟩ := ih hhigh
      cases hc : value? c with
      | none => rw [numberFrom?, hc] at hlast; cases hlast
      | some d =>
          rw [numberFrom?, hc] at hlast
          cases hlast
          obtain ⟨hd, hdigit⟩ := digit_of_value? hc
          have hdiv : (16 * high + d) / 16 = high := by omega
          have hmod : (16 * high + d) % 16 = d := by omega
          rw [List.length_append, List.length_singleton]
          refine ⟨?_, ?_⟩
          · rw [Nat.pow_succ]
            omega
          · rw [digits, hdiv, hmod, hdigits, hdigit, List.map_append, List.map_singleton]

theorem isSome_numberFrom?_iff (high : Nat) :
    (numberFrom? high cs).isSome ↔ ∀ c ∈ cs, IsDigit c := by
  induction cs generalizing high with
  | nil => exact iff_of_true rfl (List.forall_mem_nil _)
  | cons c cs ih =>
      rw [List.forall_mem_cons, ← isSome_value?_iff, numberFrom?]
      cases value? c with
      | none => simp
      | some d => simpa using ih (16 * high + d)

/-- **Characters write a number** if they are digits, and it is the one whose digits they are in
    lower case. -/
theorem number?_eq_some_iff : number? cs = some n ↔
    (∀ c ∈ cs, IsDigit c) ∧ n < 16 ^ cs.length ∧ digits cs.length n = cs.map Char.toLower := by
  constructor
  · intro h
    exact ⟨(isSome_numberFrom?_iff 0).mp (Option.isSome_of_eq_some h), digits_of_number? h⟩
  · rintro ⟨hall, hn, hdigits⟩
    obtain ⟨m, hm⟩ := Option.isSome_iff_exists.mp ((isSome_numberFrom?_iff 0).mpr hall)
    obtain ⟨hmlt, hmdigits⟩ := digits_of_number? hm
    -- equal digits are read as the same number
    have hsame := congrArg number? (hmdigits.trans hdigits.symm)
    rw [number?_digits hmlt, number?_digits hn] at hsame
    exact hm.trans hsame

end Hex

/-! ## 2. Groups -/

namespace Ident

variable {digits cs inner : List Char} {sizes : List Nat} {text : String} {x y : Ident}

/-- The digits in groups of the given sizes, with a hyphen between any two groups. -/
def Grouped (sizes : List Nat) (digits cs : List Char) : Prop :=
  ∃ groups : List (List Char),
    groups.map List.length = sizes ∧ groups.flatten = digits ∧ ['-'].intercalate groups = cs

theorem Grouped.sum_eq (h : Grouped sizes digits cs) : sizes.sum = digits.length := by
  obtain ⟨groups, rfl, rfl, -⟩ := h
  rw [List.length_flatten]

theorem hyphenate_cons_cons (size next : Nat) (sizes : List Nat) (digits : List Char) :
    hyphenate (size :: next :: sizes) digits =
      digits.take size ++ '-' :: hyphenate (next :: sizes) (digits.drop size) := rfl

/-- To cut into groups and to join them by hyphens is what `hyphenate` does. -/
theorem grouped_hyphenate : ∀ {sizes : List Nat} {digits : List Char}, sizes ≠ [] →
    sizes.sum = digits.length → Grouped sizes digits (hyphenate sizes digits)
  | [], _, hne, _ => absurd rfl hne
  | [size], digits, _, h => ⟨[digits], by simpa using h.symm, by simp, by simp [hyphenate]⟩
  | size :: next :: sizes, digits, _, h => by
      rw [List.sum_cons] at h
      have hrest : (next :: sizes).sum = (digits.drop size).length := by
        rw [List.length_drop]
        omega
      obtain ⟨groups, hsizes, hflat, hjoin⟩ := grouped_hyphenate (by simp) hrest
      obtain ⟨first, more, rfl⟩ := List.exists_cons_of_ne_nil
        (show groups ≠ [] by rintro rfl; cases hsizes)
      refine ⟨digits.take size :: first :: more, ?_, ?_, ?_⟩
      · rw [List.map_cons, hsizes, List.length_take_of_le (by omega)]
      · rw [List.flatten_cons, hflat, List.take_append_drop]
      · rw [List.intercalate_cons_cons, hjoin, hyphenate_cons_cons, List.append_assoc]
        rfl

/-- Digits are grouped in one way only. -/
theorem Grouped.eq_hyphenate : ∀ {sizes : List Nat} {digits cs : List Char},
    Grouped sizes digits cs → cs = hyphenate sizes digits
  | _, _, _, ⟨[], rfl, rfl, rfl⟩ => rfl
  | _, _, _, ⟨[group], rfl, rfl, rfl⟩ => by simp [hyphenate]
  | _, _, _, ⟨group :: next :: groups, rfl, rfl, rfl⟩ => by
      have hmore : Grouped ((next :: groups).map List.length) (next :: groups).flatten
          (['-'].intercalate (next :: groups)) := ⟨next :: groups, rfl, rfl, rfl⟩
      rw [List.intercalate_cons_cons, hmore.eq_hyphenate]
      simp only [List.map_cons, List.flatten_cons (l := group), hyphenate_cons_cons]
      rw [List.take_left, List.drop_left, List.append_assoc]
      rfl

theorem grouped_iff (hne : sizes ≠ []) :
    Grouped sizes digits cs ↔ sizes.sum = digits.length ∧ cs = hyphenate sizes digits := by
  constructor
  · exact fun h => ⟨h.sum_eq, h.eq_hyphenate⟩
  · rintro ⟨hsum, rfl⟩
    exact grouped_hyphenate hne hsum

/-- What is taken apart into groups was joined from them. -/
theorem eq_hyphenate_of_unhyphenate? : ∀ {sizes : List Nat} {cs digits : List Char},
    unhyphenate? sizes cs = some digits → sizes.sum = digits.length ∧ cs = hyphenate sizes digits
  | [], cs, digits, h => by
      unfold unhyphenate? at h
      split at h
      next hempty =>
        cases h
        exact ⟨rfl, List.isEmpty_iff.mp hempty⟩
      next => cases h
  | [size], cs, digits, h => by
      unfold unhyphenate? at h
      split at h
      next hlength =>
        cases h
        exact ⟨by simpa using hlength.symm, rfl⟩
      next => cases h
  | size :: next :: sizes, cs, digits, h => by
      rw [unhyphenate?] at h
      · split at h
        next rest hdrop =>
          obtain ⟨more, hmore, rfl⟩ := Option.map_eq_some_iff.mp h
          obtain ⟨hsum, hrest⟩ := eq_hyphenate_of_unhyphenate? hmore
          have hlong : size < cs.length := by
            have hlength := congrArg List.length hdrop
            rw [List.length_drop, List.length_cons] at hlength
            omega
          have htake : (cs.take size).length = size := List.length_take_of_le (by omega)
          refine ⟨by rw [List.sum_cons, hsum, List.length_append, htake], ?_⟩
          rw [hyphenate_cons_cons, List.take_left' htake, List.drop_left' htake, ← hrest, ← hdrop,
            List.take_append_drop]
        next => cases h
      · simp

/-- **Groups are taken apart** exactly where digits are grouped. -/
theorem unhyphenate?_eq_some_iff (hne : sizes ≠ []) :
    unhyphenate? sizes cs = some digits ↔ Grouped sizes digits cs := by
  rw [grouped_iff hne]
  constructor
  · exact eq_hyphenate_of_unhyphenate?
  · rintro ⟨hsum, rfl⟩
    exact unhyphenate?_hyphenate sizes digits hsum

/-! ## 3. Forms -/

/-- The four forms in which digits may be given. -/
inductive Written (digits : List Char) : List Char → Prop where
  | plain : Written digits digits
  | hyphenated {cs : List Char} (h : Grouped [8, 4, 4, 4, 12] digits cs) : Written digits cs
  | braced {cs : List Char} (h : Grouped [8, 4, 4, 4, 12] digits cs) :
      Written digits ('{' :: cs ++ ['}'])
  | named {mark cs : List Char} (hmark : mark.map Char.toLower = "urn:uuid:".toList)
      (h : Grouped [8, 4, 4, 4, 12] digits cs) : Written digits (mark ++ cs)

theorem Grouped.length_eq (h : Grouped groupSizes digits cs) :
    digits.length = 32 ∧ cs.length = 36 := by
  have hdigits : digits.length = 32 := h.sum_eq.symm
  refine ⟨hdigits, ?_⟩
  rw [h.eq_hyphenate, length_hyphenate groupSizes digits h.sum_eq, hdigits]
  rfl

theorem inBraces?_eq_some_iff : inBraces? cs = some inner ↔ cs = '{' :: inner ++ ['}'] := by
  constructor
  · intro h
    unfold inBraces? at h
    split at h
    next rest =>
      split at h
      next hlast =>
        cases h
        obtain ⟨front, rfl⟩ := List.getLast?_eq_some_iff.mp hlast
        rw [List.dropLast_concat, List.cons_append]
      next => cases h
    next => cases h
  · rintro rfl
    simp [inBraces?]

theorem hasNamePrefix_iff :
    hasNamePrefix cs = true ↔ (cs.take 9).map Char.toLower = "urn:uuid:".toList := by
  rw [hasNamePrefix, beq_iff_eq]
  rfl

/-- **The forms are recognised**, each by its length. -/
theorem digits?_eq_some_iff :
    digits? cs = some digits ↔ digits.length = 32 ∧ Written digits cs := by
  have hne : groupSizes ≠ [] := List.cons_ne_nil _ _
  constructor
  · intro h
    unfold digits? at h
    split at h
    next hlength =>
      cases h
      exact ⟨hlength, .plain⟩
    split at h
    next =>
      have hgrouped := (unhyphenate?_eq_some_iff hne).mp h
      exact ⟨hgrouped.length_eq.1, .hyphenated hgrouped⟩
    split at h
    next =>
      obtain ⟨inner, hinner, hsome⟩ := Option.bind_eq_some_iff.mp h
      have hgrouped := (unhyphenate?_eq_some_iff hne).mp hsome
      rw [inBraces?_eq_some_iff.mp hinner]
      exact ⟨hgrouped.length_eq.1, .braced hgrouped⟩
    split at h
    next hnamed =>
      have hgrouped := (unhyphenate?_eq_some_iff hne).mp h
      have hwritten : Written digits (cs.take 9 ++ cs.drop 9) :=
        .named (hasNamePrefix_iff.mp hnamed.2) hgrouped
      rw [List.take_append_drop] at hwritten
      exact ⟨hgrouped.length_eq.1, hwritten⟩
    next => cases h
  · rintro ⟨hlength, hwritten⟩
    cases hwritten with
    | plain => exact if_pos hlength
    | hyphenated hgrouped =>
        have hcs := hgrouped.length_eq.2
        rw [digits?, if_neg (by omega), if_pos hcs]
        exact (unhyphenate?_eq_some_iff hne).mpr hgrouped
    | @braced inner hgrouped =>
        have hcs : ('{' :: inner ++ ['}']).length = 38 := by simp [hgrouped.length_eq.2]
        rw [digits?, if_neg (by omega), if_neg (by omega), if_pos hcs,
          inBraces?_eq_some_iff.mpr rfl, Option.bind_some]
        exact (unhyphenate?_eq_some_iff hne).mpr hgrouped
    | @named mark inner hmark hgrouped =>
        have hnine : mark.length = 9 := by
          rw [← List.length_map Char.toLower, hmark]
          rfl
        have hcs : (mark ++ inner).length = 45 := by
          rw [List.length_append, hnine, hgrouped.length_eq.2]
        have hprefix : hasNamePrefix (mark ++ inner) = true := by
          rw [hasNamePrefix_iff, List.take_left' hnine, hmark]
        rw [digits?, if_neg (by omega), if_neg (by omega), if_neg (by omega),
          if_pos ⟨hcs, hprefix⟩, List.drop_left' hnine]
        exact (unhyphenate?_eq_some_iff hne).mpr hgrouped

/-! ## 4. Reading -/

/-- Thirty-two hexadecimal digits of either case. -/
structure IsNumeral (digits : List Char) : Prop where
  length : digits.length = 32
  all : ∀ c ∈ digits, Hex.IsDigit c

theorem digits_ofNat {n : Nat} (h : n < 16 ^ 32) :
    Ident.digits (BitVec.ofNat 128 n) = Hex.digits 32 n := by
  have hmod : n % 2 ^ 128 = n := Nat.mod_eq_of_lt h
  rw [Ident.digits, BitVec.toNat_ofNat, hmod]

/-- **A text gives an identifier** exactly if it has thirty-two digits in one of the forms, and it
    gives the one whose digits they are in lower case. -/
theorem read_eq_ok_iff : Ident.read text = .ok x ↔ ∃ digits, IsNumeral digits ∧
    Written digits text.toList ∧ digits.map Char.toLower = x.digits := by
  have hread : Ident.read text = .ok x ↔ ofText? text = some x := by
    unfold Ident.read
    cases ofText? text <;> simp
  rw [hread, ofText?]
  constructor
  · intro h
    obtain ⟨n, hn, hx⟩ := Option.map_eq_some_iff.mp h
    obtain ⟨digits, hdigits, hnumber⟩ := Option.bind_eq_some_iff.mp hn
    obtain ⟨hlength, hwritten⟩ := digits?_eq_some_iff.mp hdigits
    obtain ⟨hall, hlt, hlower⟩ := Hex.number?_eq_some_iff.mp hnumber
    rw [hlength] at hlt hlower
    refine ⟨digits, ⟨hlength, hall⟩, hwritten, ?_⟩
    rw [← hlower, ← hx, digits_ofNat hlt]
  · rintro ⟨digits, hnumeral, hwritten, hlower⟩
    have hnumber : Hex.number? digits = some x.toNat := by
      refine Hex.number?_eq_some_iff.mpr ⟨hnumeral.all, ?_, ?_⟩
      · rw [hnumeral.length]
        exact x.isLt
      · rw [hnumeral.length, hlower, Ident.digits]
    rw [digits?_eq_some_iff.mpr ⟨hnumeral.length, hwritten⟩, Option.bind_some, hnumber,
      Option.map_some, BitVec.ofNat_toNat, BitVec.setWidth_eq]

theorem exists_read_iff : (∃ x, Ident.read text = .ok x) ↔
    ∃ digits, IsNumeral digits ∧ Written digits text.toList := by
  constructor
  · rintro ⟨x, hx⟩
    obtain ⟨digits, hnumeral, hwritten, -⟩ := read_eq_ok_iff.mp hx
    exact ⟨digits, hnumeral, hwritten⟩
  · rintro ⟨digits, hnumeral, hwritten⟩
    have hsome := (Hex.isSome_numberFrom?_iff 0).mpr hnumeral.all
    obtain ⟨n, hn⟩ := Option.isSome_iff_exists.mp hsome
    obtain ⟨-, hlt, hlower⟩ := Hex.number?_eq_some_iff.mp hn
    rw [hnumeral.length] at hlt hlower
    refine ⟨BitVec.ofNat 128 n, read_eq_ok_iff.mpr ⟨digits, hnumeral, hwritten, ?_⟩⟩
    rw [← hlower, digits_ofNat hlt]

/-- The digits of a text that gives an identifier are that identifier's, in lower case. -/
theorem lower_eq_of_read (hnumeral : IsNumeral digits) (hwritten : Written digits text.toList)
    (h : Ident.read text = .ok x) : digits.map Char.toLower = x.digits := by
  obtain ⟨others, hothers, hwritten', hlower⟩ := read_eq_ok_iff.mp h
  have hsame := (digits?_eq_some_iff.mpr ⟨hnumeral.length, hwritten⟩).symm.trans
    (digits?_eq_some_iff.mpr ⟨hothers.length, hwritten'⟩)
  rw [Option.some.inj hsame, hlower]

/-- The text of an identifier is the hyphenated form of its digits. -/
theorem grouped_text (x : Ident) : Grouped [8, 4, 4, 4, 12] x.digits x.text.toList := by
  rw [text, String.toList_ofList]
  exact grouped_hyphenate (List.cons_ne_nil _ _) (Hex.length_digits 32 x.toNat).symm

theorem mem_hyphenate : ∀ {sizes : List Nat} {digits : List Char} {c : Char},
    c ∈ hyphenate sizes digits → c = '-' ∨ c ∈ digits
  | [], _, _, h => .inr h
  | [_], _, _, h => .inr h
  | size :: next :: sizes, digits, c, h => by
      rw [hyphenate_cons_cons, List.mem_append, List.mem_cons] at h
      rcases h with h | rfl | h
      · exact .inr (List.mem_of_mem_take h)
      · exact .inl rfl
      · exact (mem_hyphenate h).imp_right List.mem_of_mem_drop

/-- There is nothing but digits and hyphens in the text of an identifier. -/
theorem eq_hyphen_or_isDigit_of_mem {c : Char} (h : c ∈ x.text.toList) :
    c = '-' ∨ Hex.IsDigit c := by
  rw [text, String.toList_ofList] at h
  exact (mem_hyphenate h).imp_right (Hex.isDigit_of_mem_digits 32 x.toNat c)

theorem digits_injective (h : x.digits = y.digits) : x = y := by
  have hnumber := congrArg Hex.number? h
  have hx : x.toNat < 16 ^ 32 := x.isLt
  have hy : y.toNat < 16 ^ 32 := y.isLt
  rw [Ident.digits, Ident.digits, Hex.number?_digits hx, Hex.number?_digits hy] at hnumber
  exact BitVec.eq_of_toNat_eq (Option.some.inj hnumber)

end Ident

end Stagecraft
