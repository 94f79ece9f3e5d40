import Stagecraft.Json.Skip

/-!
# Passing over values

`skipValue` keeps the open brackets in a list and takes one step after the other. Here is what it
does, free of how many steps it may take and of the brackets that are open:

* every part of it shortens the text, so that there are always steps enough;
* `Json.skipInside_of_skipValue`: a value ends at the same place whatever brackets are open around
  it;
* `Json.skipString_of_scanString`: what is read as a string is passed over as one;
* `Json.Elements` and `Json.Fields` are about what stands inside arrays and objects, which are
  passed over if their elements or fields are.
-/

namespace Stagecraft.Json

variable {s t u rest : List Char} {fuel : Nat}

/-! ## 1. Every part shortens the text -/

theorem length_skipSpace (s : List Char) : (skipSpace s).length ≤ s.length := by
  fun_induction skipSpace s <;> grind

theorem skipSpace_skipSpace (s : List Char) : skipSpace (skipSpace s) = skipSpace s := by
  fun_induction skipSpace s <;> grind [skipSpace]

@[grind →]
theorem length_takeWord {word : List Char} (h : takeWord word s = .ok rest) :
    rest.length ≤ s.length := by
  fun_induction takeWord word s <;> grind

@[grind →]
theorem length_scanHex {n : Nat} (h : scanHex s = .ok (n, rest)) : rest.length < s.length := by
  unfold scanHex at h
  grind

@[grind →]
theorem length_skipChar {last : Bool} (h : skipChar s = .ok (last, rest)) :
    rest.length < s.length := by
  unfold skipChar at h
  grind

@[grind →]
theorem length_skipChars (h : skipChars fuel s = .ok rest) : rest.length < s.length := by
  fun_induction skipChars fuel s <;> grind

theorem length_dropDigits (count : Nat) (s : List Char) :
    (dropDigits count s).2.length ≤ s.length := by
  fun_induction dropDigits count s <;> grind

theorem length_takeSign (s : List Char) : (takeSign s).2.length ≤ s.length := by
  unfold takeSign
  grind

@[grind →]
theorem length_skipPower (h : skipPower s = .ok rest) : rest.length ≤ s.length := by
  unfold skipPower at h
  grind [length_dropDigits 0 (takeSign s).2, length_takeSign s]

@[grind →]
theorem length_skipAfterFraction (h : skipAfterFraction s = .ok rest) :
    rest.length ≤ s.length := by
  unfold skipAfterFraction at h
  grind

@[grind →]
theorem length_skipAfterWhole (h : skipAfterWhole s = .ok rest) : rest.length ≤ s.length := by
  unfold skipAfterWhole at h
  split at h
  next digits => grind [length_dropDigits 0 digits]
  next => exact length_skipAfterFraction h

@[grind →]
theorem length_skipNumber (h : skipNumber s = .ok rest) : rest.length < s.length := by
  unfold skipNumber at h
  split at h
  next => grind
  next =>
    split at h
    next hdigit =>
      -- the first digit is dropped with the others
      cases s with
      | nil => cases hdigit
      | cons c digits =>
          have hdrop : dropDigits 0 (c :: digits) = dropDigits 1 digits := if_pos hdigit
          grind [length_dropDigits 1 digits]
    next => cases h

@[grind →]
theorem length_skipScalar (h : skipScalar s = .ok rest) : rest.length < s.length := by
  unfold skipScalar skipWord skipString at h
  grind

@[grind →]
theorem length_takeColon (h : takeColon s = .ok rest) : rest.length < s.length := by
  unfold takeColon at h
  grind [length_skipSpace s]

@[grind →]
theorem length_skipKey (h : skipKey s = .ok rest) : rest.length < s.length := by
  unfold skipKey skipString at h
  grind [length_skipSpace s]

@[grind →]
theorem length_skipToValue {bracket : Bracket} {outer inside : List Bracket}
    (h : skipToValue bracket outer s = .ok (.value inside, rest)) : rest.length ≤ s.length := by
  unfold skipToValue at h
  grind

/-- Up to the next value a comma is taken at least. -/
@[grind →]
theorem length_skipAfterValue {brackets inside : List Bracket}
    (h : skipAfterValue brackets s = .ok (.value inside, rest)) : rest.length < s.length := by
  fun_induction skipAfterValue brackets s with
  | case1 s => cases h
  | _ => grind [length_skipSpace]

@[grind →]
theorem length_skipAfterOpening {bracket : Bracket} {outer inside : List Bracket}
    (h : skipAfterOpening bracket outer s = .ok (.value inside, rest)) :
    rest.length ≤ s.length := by
  unfold skipAfterOpening at h
  have hspace := length_skipSpace s
  grind

/-- Up to the next value a scalar or a bracket is taken at least. -/
theorem length_skipFront {inside more : List Bracket}
    (h : skipFront inside s = .ok (.value more, rest)) : rest.length < s.length := by
  unfold skipFront at h
  have hspace := length_skipSpace s
  grind

/-! ## 2. Steps -/

theorem skipFrom_eq_skipFrom : ∀ {fuel more : Nat} {inside : List Bracket} {s : List Char},
    s.length < fuel → s.length < more → skipFrom fuel inside s = skipFrom more inside s
  | 0, _, _, _, h, _ => absurd h (Nat.not_lt_zero _)
  | _, 0, _, _, _, h => absurd h (Nat.not_lt_zero _)
  | fuel + 1, more + 1, inside, s, hfuel, hmore => by
      rw [skipFrom, skipFrom]
      cases hfront : skipFront inside s with
      | error fault => rfl
      | ok read =>
          obtain ⟨step, rest⟩ := read
          cases step with
          | done => rfl
          | value inside' =>
              have hshorter := length_skipFront hfront
              exact skipFrom_eq_skipFrom (by omega) (by omega)

/-- Passes over values inside open brackets until all of these are closed. -/
def skipInside (inside : List Bracket) (s : List Char) : Except Fault (List Char) :=
  skipFrom (s.length + 1) inside s

/-- What comes after a step. -/
def goOn : Read Step → Except Fault (List Char)
  | .error fault => .error fault
  | .ok (.done, s) => .ok s
  | .ok (.value inside, s) => skipInside inside s

theorem skipInside_eq (inside : List Bracket) (s : List Char) :
    skipInside inside s = goOn (skipFront inside s) := by
  rw [skipInside, skipFrom]
  cases hfront : skipFront inside s with
  | error fault => rfl
  | ok read =>
      obtain ⟨step, rest⟩ := read
      cases step with
      | done => rfl
      | value inside' => exact skipFrom_eq_skipFrom (length_skipFront hfront) (Nat.lt_succ_self _)

/-- A step inside some brackets, seen inside more of them: where it has closed the former, it goes
    on inside the latter. -/
def stepInside (outer : List Bracket) : Read Step → Read Step
  | .error fault => .error fault
  | .ok (.done, s) => skipAfterValue outer s
  | .ok (.value inside, s) => .ok (.value (inside ++ outer), s)

theorem skipToValue_append (bracket : Bracket) (inside outer : List Bracket) (s : List Char) :
    skipToValue bracket (inside ++ outer) s = stepInside outer (skipToValue bracket inside s) := by
  cases bracket with
  | array => rfl
  | object =>
      rw [skipToValue, skipToValue]
      cases skipKey s <;> rfl

theorem skipAfterValue_append (inside outer : List Bracket) (s : List Char) :
    skipAfterValue (inside ++ outer) s = stepInside outer (skipAfterValue inside s) := by
  induction inside generalizing s with
  | nil => rw [skipAfterValue]; rfl
  | cons bracket inside ih =>
      rw [List.cons_append]
      unfold skipAfterValue
      split
      · rfl
      · rfl
      · exact skipToValue_append _ _ _ _
      · exact ih _
      · exact ih _
      · rfl
      · rfl

theorem skipAfterOpening_append (bracket : Bracket) (inside outer : List Bracket) (s : List Char) :
    skipAfterOpening bracket (inside ++ outer) s =
      stepInside outer (skipAfterOpening bracket inside s) := by
  unfold skipAfterOpening
  split
  · rfl
  · rfl
  · exact skipAfterValue_append _ _ _
  · exact skipAfterValue_append _ _ _
  · exact skipToValue_append _ _ _ _

theorem skipFront_append (inside outer : List Bracket) (s : List Char) :
    skipFront (inside ++ outer) s = stepInside outer (skipFront inside s) := by
  unfold skipFront
  split
  · rfl
  · exact skipAfterOpening_append _ _ _ _
  · exact skipAfterOpening_append _ _ _ _
  · split
    · rfl
    · exact skipAfterValue_append _ _ _

/-- Brackets further out are left open meanwhile. -/
theorem skipInside_append : ∀ (inside outer : List Bracket) (s : List Char),
    skipInside (inside ++ outer) s =
      (skipInside inside s).bind fun rest => goOn (skipAfterValue outer rest)
  | inside, outer, s => by
      rw [skipInside_eq, skipInside_eq inside, skipFront_append]
      cases hfront : skipFront inside s with
      | error fault => rfl
      | ok read =>
          obtain ⟨step, rest⟩ := read
          cases step with
          | done => rfl
          | value more =>
              have hshorter := length_skipFront hfront
              exact skipInside_append more outer rest
  termination_by _ _ s => s.length

/-- **What is passed over ends at the same place whatever brackets are open around it**, and then
    the innermost of these goes on. -/
theorem skipInside_of_skipValue (h : skipValue s = .ok rest) (inside : List Bracket) :
    skipInside inside s = goOn (skipAfterValue inside rest) := by
  have hinside := skipInside_append [] inside s
  rw [show skipInside [] s = .ok rest from h] at hinside
  exact hinside

theorem skipValue_eq (s : List Char) : skipValue s = goOn (skipFront [] s) :=
  skipInside_eq [] s

/-- Blanks in front make no difference. -/
theorem skipValue_skipSpace (s : List Char) : skipValue (skipSpace s) = skipValue s := by
  have hfront : skipFront [] (skipSpace s) = skipFront [] s := by
    unfold skipFront
    rw [skipSpace_skipSpace]
  rw [skipValue_eq, skipValue_eq, hfront]

theorem skipValue_of_skipScalar (h : skipScalar (skipSpace s) = .ok rest) :
    skipValue s = .ok rest := by
  rw [skipValue_eq, skipFront]
  -- neither an end of the text nor a bracket is a scalar
  split
  next hspace => rw [hspace] at h; cases h
  next hspace => rw [hspace] at h; cases h
  next hspace => rw [hspace] at h; cases h
  next => rw [h]; rfl

/-! ## 3. Strings -/

theorem skipChars_eq_skipChars : ∀ {fuel more : Nat} {s : List Char},
    s.length < fuel → s.length < more → skipChars fuel s = skipChars more s
  | 0, _, _, h, _ => absurd h (Nat.not_lt_zero _)
  | _, 0, _, _, h => absurd h (Nat.not_lt_zero _)
  | fuel + 1, more + 1, s, hfuel, hmore => by
      rw [skipChars, skipChars]
      split
      · rfl
      · rfl
      next hchar =>
        have hshorter := length_skipChar hchar
        exact skipChars_eq_skipChars (by omega) (by omega)

/-- After a character that does not end it, a string goes on with the next one. -/
theorem skipString_of_skipChar (h : skipChar s = .ok (false, rest)) :
    skipString s = skipString rest := by
  rw [skipString, skipChars, h]
  exact skipChars_eq_skipChars (length_skipChar h) (Nat.lt_succ_self _)

theorem skipChar_of_end (h : scanChar s = .ok (none, rest)) : skipChar s = .ok (true, rest) := by
  unfold scanChar at h
  grind [skipChar]

/-- The second half of a surrogate pair is an escape by number. -/
theorem skipChar_of_lowSurrogate {low : Nat} (h : scanLowSurrogate s = .ok (low, rest)) :
    skipChar s = .ok (false, rest) := by
  unfold scanLowSurrogate at h
  split at h
  · cases h
  · cases h
  next hex =>
    split at h
    · cases h
    next hread =>
      split at h
      · cases h
        rw [skipChar, hread]
      · cases h
  · cases h
  · cases h

theorem skipString_of_scanNumbered {c : Char} (h : scanNumbered s = .ok (c, rest)) :
    skipString ('\\' :: 'u' :: s) = skipString rest := by
  unfold scanNumbered at h
  split at h
  · cases h
  next n mid hread =>
    have hfirst : skipString ('\\' :: 'u' :: s) = skipString mid :=
      skipString_of_skipChar (by rw [skipChar, hread])
    split at h
    · cases h
    split at h
    · split at h
      · cases h
      next hlow =>
        obtain ⟨-, rfl⟩ := Prod.mk.inj (Except.ok.inj h)
        exact hfirst.trans (skipString_of_skipChar (skipChar_of_lowSurrogate hlow))
    · cases h
      exact hfirst

/-- A character that was read is passed over, the two halves of a surrogate pair one after the
    other. -/
theorem skipString_of_scanChar {c : Char} (h : scanChar s = .ok (some c, rest)) :
    skipString s = skipString rest := by
  unfold scanChar at h
  split at h
  · cases h
  next first s =>
    split at h
    · cases h
    next hquote =>
      split at h
      next hslash =>
        subst hslash
        unfold scanEscape at h
        grind [skipString_of_scanNumbered, skipString_of_skipChar, skipChar]
      next hslash =>
        split at h
        · cases h
        next hcontrol =>
          cases h
          refine skipString_of_skipChar ?_
          simp [skipChar, hquote, hslash, hcontrol]

theorem skipString_of_scanChars {cs : List Char} : ∀ {fuel : Nat} {done s : List Char},
    scanChars fuel done s = .ok (cs, rest) → skipString s = .ok rest
  | 0, _, _, h => by cases h
  | fuel + 1, done, s, h => by
      rw [scanChars] at h
      split at h
      · cases h
      next hend =>
        cases h
        rw [skipString, skipChars, skipChar_of_end hend]
      next hchar =>
        rw [skipString_of_scanChar hchar]
        exact skipString_of_scanChars h

/-- **What was read as a string is passed over as one.** -/
theorem skipString_of_scanString {text : String} (h : scanString s = .ok (text, rest)) :
    skipString s = .ok rest := by
  unfold scanString at h
  split at h
  · cases h
  next hchars =>
    cases h
    exact skipString_of_scanChars hchars

/-! ## 4. Arrays and objects -/

/-- From `s` to `rest` there are elements of an array, with nothing left to be read before `rest`.
    `first` says whether the first of all is still to come. -/
inductive Elements : Bool → List Char → List Char → Prop
  | done (first : Bool) (s : List Char) : Elements first s s
  | more {first : Bool} {s t u rest : List Char} (next : nextItem first s = .ok (some t))
      (value : skipValue t = .ok u) (others : Elements false u rest) : Elements first s rest

/-- From `s` to `rest` there are fields of an object, with nothing but blanks left before `rest`. -/
inductive Fields : Bool → List Char → List Char → Prop
  | done {first : Bool} {s rest : List Char} (blanks : skipSpace s = skipSpace rest) :
      Fields first s rest
  | more {first : Bool} {s t u v rest : List Char} {key : String}
      (next : nextKey first s = .ok (some key, t)) (colon : takeColon t = .ok u)
      (value : skipValue u = .ok v) (others : Fields false v rest) : Fields first s rest

/-- How an array goes on after its opening bracket or after one of its elements. -/
def skipInArray (first : Bool) (s : List Char) : Read Step :=
  if first then skipAfterOpening .array [] s else skipAfterValue [.array] s

theorem skipSpace_of_closeArray (h : closeArray s = .ok rest) : skipSpace s = ']' :: rest := by
  unfold closeArray at h
  grind

theorem skipInArray_of_close {first : Bool} (h : skipSpace s = ']' :: rest) :
    skipInArray first s = .ok (.done, rest) := by
  cases first with
  | true => simp [skipInArray, skipAfterOpening, skipAfterValue, h]
  | false => simp [skipInArray, skipAfterValue, h]

/-- Up to the next element there are blanks, and the comma if that is not the first. -/
theorem exists_skipInArray {first : Bool} (h : nextItem first s = .ok (some t)) :
    ∃ u, skipInArray first s = .ok (.value [.array], u) ∧ skipSpace u = t := by
  unfold nextItem at h
  split at h
  · cases h
  · cases h
  next c u hc hspace =>
    cases first with
    | true =>
        cases h
        refine ⟨c :: u, ?_, hspace ▸ skipSpace_skipSpace s⟩
        unfold skipInArray skipAfterOpening
        grind [skipToValue]
    | false =>
        refine ⟨u, ?_, by grind⟩
        unfold skipInArray skipAfterValue
        grind [skipToValue]

theorem Elements.goOn_eq {first : Bool} (h : Elements first s t)
    (hclose : closeArray t = .ok rest) : goOn (skipInArray first s) = .ok rest := by
  induction h with
  | done first s =>
      rw [skipInArray_of_close (skipSpace_of_closeArray hclose)]
      rfl
  | more hnext hvalue _ ih =>
      obtain ⟨u, hskip, rfl⟩ := exists_skipInArray hnext
      rw [skipValue_skipSpace] at hvalue
      rw [hskip, ← ih hclose]
      exact skipInside_of_skipValue hvalue [.array]

/-- **An array is passed over** if its elements are. -/
theorem skipValue_of_elements (hopen : skipSpace s = '[' :: t) (h : Elements true t u)
    (hclose : closeArray u = .ok rest) : skipValue s = .ok rest := by
  rw [skipValue_eq, skipFront, hopen]
  exact h.goOn_eq hclose

/-- How an object goes on after its opening bracket or after one of its fields. -/
def skipInObject (first : Bool) (s : List Char) : Read Step :=
  if first then skipAfterOpening .object [] s else skipAfterValue [.object] s

theorem skipSpace_of_closeObject (h : closeObject s = .ok rest) : skipSpace s = '\x7d' :: rest := by
  unfold closeObject at h
  grind

theorem skipInObject_of_close {first : Bool} (h : skipSpace s = '\x7d' :: rest) :
    skipInObject first s = .ok (.done, rest) := by
  cases first with
  | true => simp [skipInObject, skipAfterOpening, skipAfterValue, h]
  | false => simp [skipInObject, skipAfterValue, h]

theorem skipKey_of_scanKey {key : String} (hquote : skipSpace s = '"' :: t)
    (hkey : scanKey t = .ok (some key, u)) (hcolon : takeColon u = .ok rest) :
    skipKey s = .ok rest := by
  unfold scanKey at hkey
  split at hkey
  · cases hkey
  next hread =>
    cases hkey
    simp only [skipKey, hquote, skipString_of_scanString hread, hcolon]

/-- Up to the next value there are a key and its colon, and a comma if that is not the first. -/
theorem skipInObject_of_nextKey {first : Bool} {key : String}
    (h : nextKey first s = .ok (some key, t)) (hcolon : takeColon t = .ok u) :
    skipInObject first s = .ok (.value [.object], u) := by
  unfold nextKey at h
  split at h
  · cases h
  · cases h
  next c mid hc hspace =>
    cases first with
    | true =>
        have hquote : c = '"' ∧ scanKey mid = .ok (some key, t) := by grind
        obtain ⟨rfl, hread⟩ := hquote
        have hkey : skipKey ('"' :: mid) = .ok u := skipKey_of_scanKey rfl hread hcolon
        simp [skipInObject, skipAfterOpening, hspace, skipToValue, hkey]
    | false =>
        have hcomma : c = ',' ∧ ∃ key', skipSpace mid = '"' :: key' ∧
            scanKey key' = .ok (some key, t) := by
          grind
        obtain ⟨rfl, key', hquote, hread⟩ := hcomma
        have hkey : skipKey mid = .ok u := skipKey_of_scanKey hquote hread hcolon
        simp [skipInObject, skipAfterValue, hspace, skipToValue, hkey]

theorem Fields.goOn_eq {first : Bool} (h : Fields first s t)
    (hclose : closeObject t = .ok rest) : goOn (skipInObject first s) = .ok rest := by
  induction h with
  | done hblanks =>
      rw [skipInObject_of_close (hblanks.trans (skipSpace_of_closeObject hclose))]
      rfl
  | more hnext hcolon hvalue _ ih =>
      rw [skipInObject_of_nextKey hnext hcolon, ← ih hclose]
      exact skipInside_of_skipValue hvalue [.object]

/-- **An object is passed over** if its fields are. -/
theorem skipValue_of_fields (hopen : skipSpace s = '\x7b' :: t) (h : Fields true t u)
    (hclose : closeObject u = .ok rest) : skipValue s = .ok rest := by
  rw [skipValue_eq, skipFront, hopen]
  exact h.goOn_eq hclose

end Stagecraft.Json
