import Stagecraft.Json.Tagged
import Stagecraft.Proofs.Json.Record
import Stagecraft.Proofs.Json.Skip

/-!
# What is read is as long as what is passed over

A reader that knows what it expects and `skipValue`, which does not, agree on where a value ends:
what a reader has read at the front of a text, `skipValue` passes over too, and leaves the same
rest. A reader for which this is true is `Extents`.
-/

namespace Stagecraft.Json

variable {s t rest : List Char} {α : Type}

/-! ## 1. Numbers -/

theorem dropDigits_eq_dropWhile (count : Nat) (s : List Char) :
    (dropDigits count s).2 = s.dropWhile Char.isDigit := by
  fun_induction dropDigits count s <;> grind [List.dropWhile_nil, List.dropWhile_cons]

theorem dropWhile_of_not_startsWithDigit (h : ¬ startsWithDigit s) :
    s.dropWhile Char.isDigit = s := by
  cases s with
  | nil => rfl
  | cons c s => exact List.dropWhile_cons_of_neg h

/-- Digits that no longer fit are digits all the same. -/
theorem dropWhile_takeDigits (bound n count : Nat) (s : List Char) :
    (takeDigits bound n count s).2.2.dropWhile Char.isDigit = s.dropWhile Char.isDigit := by
  fun_induction takeDigits bound n count s <;> grind [digit?, List.dropWhile_cons]

theorem takeDigits_of_not_startsWithDigit {bound n count : Nat} (h : ¬ startsWithDigit s) :
    takeDigits bound n count s = (n, count, s) := by
  cases s with
  | nil => rfl
  | cons c s =>
      have hc : digit? c = none := if_neg h
      rw [takeDigits, hc]

variable {number : Number} {negative : Bool} {n : Nat} {exponent : Int}

theorem rest_of_endScaled (h : endScaled negative n exponent s = .ok (number, rest)) :
    s = rest := by
  unfold endScaled at h
  grind

theorem skipPower_of_scanPower (h : scanPower negative n exponent s = .ok (number, rest)) :
    skipPower s = .ok rest := by
  unfold scanPower at h
  dsimp only at h
  split at h
  · cases h
  next c digits hsign =>
    split at h
    next hdigit =>
      have hdrop := dropWhile_takeDigits powerBound 0 0 (takeSign s).2
      have hstart : startsWithDigit (takeSign s).2 := by
        rw [hsign]
        exact hdigit
      rw [skipPower, if_pos hstart, dropDigits_eq_dropWhile, ← hdrop]
      split at h
      · split at h
        · cases h
        · cases h
          rw [dropDigits_eq_dropWhile]
      next hrest => rw [dropWhile_of_not_startsWithDigit hrest, rest_of_endScaled h]
    · cases h

theorem skipAfterFraction_of_scanAfterFraction
    (h : scanAfterFraction negative n exponent s = .ok (number, rest)) :
    skipAfterFraction s = .ok rest := by
  unfold scanAfterFraction at h
  unfold skipAfterFraction
  split at h
  · exact skipPower_of_scanPower h
  · exact skipPower_of_scanPower h
  · rw [rest_of_endScaled h]

/-- Behind a point there have to be digits, for both. -/
theorem skipAfterWhole_of_scanFraction
    (h : scanFraction negative n exponent s = .ok (number, rest)) :
    skipAfterWhole ('.' :: s) = .ok rest := by
  unfold scanFraction at h
  dsimp only at h
  have hdrop := dropWhile_takeDigits significandBound n 0 s
  have hdigit : startsWithDigit s := by
    by_contra hnone
    rw [takeDigits_of_not_startsWithDigit hnone, if_neg hnone, if_pos rfl] at h
    split at h <;> cases h
  rw [skipAfterWhole, if_pos hdigit, dropDigits_eq_dropWhile, ← hdrop]
  split at h
  · rw [dropDigits_eq_dropWhile] at h
    exact skipAfterFraction_of_scanAfterFraction h
  next hrest =>
    rw [dropWhile_of_not_startsWithDigit hrest]
    split at h
    · split at h <;> cases h
    · exact skipAfterFraction_of_scanAfterFraction h

theorem skipAfterWhole_of_scanAfterWhole (h : scanAfterWhole negative n s = .ok (number, rest)) :
    skipAfterWhole s = .ok rest := by
  unfold scanAfterWhole at h
  split at h
  · exact skipAfterWhole_of_scanFraction h
  · exact skipPower_of_scanPower h
  · exact skipPower_of_scanPower h
  · cases h
    unfold skipAfterWhole skipAfterFraction
    grind

theorem skipAfterWhole_of_scanAfterLong
    (h : scanAfterLong negative n exponent s = .ok (number, rest)) :
    skipAfterWhole s = .ok rest := by
  unfold scanAfterLong at h
  split at h
  · exact skipAfterWhole_of_scanFraction h
  next hpoint =>
    have hskip := skipAfterFraction_of_scanAfterFraction h
    unfold skipAfterWhole
    split
    · exact absurd rfl (hpoint _)
    · exact hskip

/-- **What was read as a number is passed over as one.** -/
theorem skipNumber_of_scanNumber (h : scanNumber negative s = .ok (number, rest)) :
    skipNumber s = .ok rest := by
  unfold scanNumber at h
  split at h
  · cases h
  · split at h
    · cases h
    next digits hnext =>
      rw [skipNumber, if_neg hnext]
      exact skipAfterWhole_of_scanAfterWhole h
  next hzero =>
    split at h
    next hdigit =>
      have hdrop := dropWhile_takeDigits significandBound 0 0 s
      have hskip : skipNumber s = skipAfterWhole (s.dropWhile Char.isDigit) := by
        unfold skipNumber
        split
        · exact absurd rfl (hzero _)
        · rw [if_pos hdigit, dropDigits_eq_dropWhile]
      rw [hskip, ← hdrop]
      dsimp only at h
      split at h
      · rw [dropDigits_eq_dropWhile] at h
        exact skipAfterWhole_of_scanAfterLong h
      next hrest =>
        rw [dropWhile_of_not_startsWithDigit hrest]
        exact skipAfterWhole_of_scanAfterWhole h
    · cases h

/-! ## 2. Scalars and texts -/

/-- What the reader has read is passed over too. -/
def Extents (scan : Scan α) : Prop :=
  ∀ s x rest, scan s = .ok (x, rest) → skipValue s = .ok rest

theorem skipWord_of_scanWord {value other : Value} {word : List Char}
    (h : scanWord value word s = .ok (other, rest)) : skipWord word s = .ok rest := by
  unfold scanWord at h
  unfold skipWord
  grind

theorem skipScalar_of_scanScalar {value : Value} (h : scanScalar s = .ok (value, rest)) :
    skipScalar s = .ok rest := by
  unfold scanScalar scanNumberValue scanStringValue at h
  unfold skipScalar
  split at h
  · exact skipWord_of_scanWord h
  · exact skipWord_of_scanWord h
  · exact skipWord_of_scanWord h
  · grind [skipNumber_of_scanNumber]
  · grind [skipString_of_scanString]
  · grind [skipNumber_of_scanNumber]

theorem extents_scanText (expected : String) : Extents (scanText expected) := by
  intro s text rest h
  unfold scanText at h
  split at h
  · cases h
  next hspace =>
    refine skipValue_of_skipScalar ?_
    rw [hspace]
    exact skipString_of_scanString h
  · cases h

theorem Extents.map {β : Type} {scan : Scan α} (f : α → β) (h : Extents scan) :
    Extents fun s => Read.map f (scan s) := by
  intro s y rest hy
  obtain ⟨x, hx, -⟩ := Read.eq_ok_of_map hy
  exact h s x rest hx

/-! ## 3. Elements and fields -/

variable {σ : Type} {state last : σ} {first : Bool} {fuel : Nat}

theorem elements_of_foldItemsFrom {step : σ → Scan σ} (hstep : ∀ state, Extents (step state)) :
    ∀ {fuel : Nat} {first : Bool} {state : σ} {s : List Char},
      foldItemsFrom step fuel first state s = .ok (last, rest) → Elements first s rest
  | 0, _, _, _, h => by cases h
  | fuel + 1, first, state, s, h => by
      rw [foldItemsFrom] at h
      split at h
      · cases h
      · cases h
        exact .done first _
      next hnext =>
        split at h
        · cases h
        next hvalue =>
          exact .more hnext (hstep _ _ _ _ hvalue) (elements_of_foldItemsFrom hstep h)

/-- What the reader of a field has read, from behind its key, is a colon and a value. -/
def FieldExtents (step : σ → String → Scan σ) : Prop :=
  ∀ state key s next rest, step state key s = .ok (next, rest) →
    ∃ t, takeColon s = .ok t ∧ skipValue t = .ok rest

/-- At the closing bracket, blanks have been passed. -/
theorem skipSpace_of_nextKey (h : nextKey first s = .ok (none, rest)) :
    skipSpace s = skipSpace rest := by
  have hrest : skipSpace s = rest := by
    unfold nextKey scanKey at h
    grind
  rw [← hrest, skipSpace_skipSpace]

theorem fields_of_foldFieldsFrom {step : σ → String → Scan σ} (hstep : FieldExtents step) :
    ∀ {fuel : Nat} {first : Bool} {state : σ} {s : List Char},
      foldFieldsFrom step fuel first state s = .ok (last, rest) → Fields first s rest
  | 0, _, _, _, h => by cases h
  | fuel + 1, first, state, s, h => by
      rw [foldFieldsFrom] at h
      split at h
      · cases h
      next hnext =>
        cases h
        exact .done (skipSpace_of_nextKey hnext)
      next hnext =>
        split at h
        · cases h
        next hvalue =>
          obtain ⟨t, hcolon, hskip⟩ := hstep _ _ _ _ _ hvalue
          exact .more hnext hcolon hskip (fields_of_foldFieldsFrom hstep h)

theorem extents_itemStep {read : Scan α} (h : Extents read) (items : List α) :
    Extents (itemStep read items) := by
  intro s next rest hnext
  unfold itemStep at hnext
  split at hnext
  · cases hnext
  next hread =>
    cases hnext
    exact h _ _ _ hread

theorem exists_of_fieldStep {read : Scan α} {fields next : List (String × α)} {key : String}
    (h : fieldStep read fields key s = .ok (next, rest)) :
    ∃ t x, takeColon s = .ok t ∧ read t = .ok (x, rest) ∧ next = (key, x) :: fields := by
  unfold fieldStep at h
  split at h
  · cases h
  next t hcolon =>
    split at h
    · cases h
    next x _ hread =>
      cases h
      exact ⟨t, x, hcolon, hread, rfl⟩

theorem fieldExtents_fieldStep {read : Scan α} (h : Extents read) :
    FieldExtents (fieldStep read) := by
  intro fields key s next rest hnext
  obtain ⟨t, x, hcolon, hread, -⟩ := exists_of_fieldStep hnext
  exact ⟨t, hcolon, h t x rest hread⟩

/-! ## 4. Values and lists -/

/-- **A value of any kind ends where it is passed over to.** -/
theorem extents_scanValue : ∀ room, Extents (scanValue room) := by
  intro room
  induction room with
  | zero =>
      intro s value rest h
      unfold scanValue at h
      split at h
      · cases h
      · cases h
      · cases h
      · exact skipValue_of_skipScalar (skipScalar_of_scanScalar h)
  | succ room ih =>
      intro s value rest h
      unfold scanValue at h
      split at h
      · cases h
      next hopen =>
        obtain ⟨t, hinside, hclose⟩ := exists_of_inArray h
        obtain ⟨items, hitems, -⟩ := Read.eq_ok_of_map hinside
        exact skipValue_of_elements hopen
          (elements_of_foldItemsFrom (extents_itemStep ih) hitems) hclose
      next hopen =>
        obtain ⟨t, hinside, hclose⟩ := exists_of_inObject h
        obtain ⟨fields, hfields, -⟩ := Read.eq_ok_of_map hinside
        exact skipValue_of_fields hopen
          (fields_of_foldFieldsFrom (fieldExtents_fieldStep ih) hfields) hclose
      · exact skipValue_of_skipScalar (skipScalar_of_scanScalar h)

theorem extents_scanList {read : Nat → Scan α} (h : ∀ room, Extents (read room)) (room : Nat) :
    Extents (scanList read room) := by
  intro s xs rest hxs
  unfold scanList at hxs
  split at hxs
  · cases hxs
  next hopen =>
    split at hxs
    · cases hxs
    next room _ =>
      obtain ⟨t, hinside, hclose⟩ := exists_of_inArray hxs
      obtain ⟨items, hitems, -⟩ := Read.eq_ok_of_map hinside
      exact skipValue_of_elements hopen
        (elements_of_foldItemsFrom (extents_itemStep (h room)) hitems) hclose
  · cases hxs

/-! ## 5. Records -/

/-- What the field has read is passed over too. -/
def Slot.Extents {δ : Type} (slot : Slot δ) : Prop :=
  ∀ room draft, Json.Extents (slot.read room draft)

theorem Slot.extents_of_fill {β δ : Type} {slot : Slot δ} {read : Nat → Scan β} {put : δ → β → δ}
    (hread : slot.read = fill read put) (h : ∀ room, Json.Extents (read room)) : slot.Extents := by
  intro room draft
  rw [hread]
  exact (h room).map (put draft)

namespace Record

variable {δ : Type} {record : Record δ α}

theorem elements_of_scanItems {title : String} {total room : Nat} {last : δ} :
    ∀ {slots : List (Slot δ)} {count : Nat} {draft : δ} {s : List Char},
      (∀ slot ∈ slots, slot.Extents) →
      scanItems title total room slots count draft s = .ok (last, rest) →
        Elements (count == 0) s rest
  | [], _, _, _, _, h => by
      cases h
      exact .done _ _
  | slot :: slots, count, draft, s, hslots, h => by
      obtain ⟨hslot, hmore⟩ := List.forall_mem_cons.mp hslots
      rw [scanItems] at h
      split at h
      · cases h
      · cases h
      next hnext =>
        split at h
        · cases h
        next hvalue =>
          exact .more hnext (hslot room draft _ _ _ hvalue) (elements_of_scanItems hmore h)

/-- Whether its key is known or not, a field is a colon and a value. -/
theorem fieldExtents_fieldStep {room : Nat}
    (hslots : ∀ slot ∈ record.slots, slot.Extents) :
    FieldExtents (record.fieldStep room) := by
  intro draft key s next rest hnext
  unfold Record.fieldStep at hnext
  split at hnext
  next slot hslot =>
    split at hnext
    · cases hnext
    split at hnext
    · cases hnext
    next hcolon =>
      have hmem := List.mem_of_find?_eq_some hslot
      exact ⟨_, hcolon, hslots slot hmem room draft _ _ _ hnext⟩
  next =>
    split at hnext
    · cases hnext
    next hcolon =>
      split at hnext
      · cases hnext
      next hskip =>
        cases hnext
        exact ⟨_, hcolon, hskip⟩

/-- **A record ends where it is passed over to**, if the values of its fields do. -/
theorem extents_scan (hslots : ∀ slot ∈ record.slots, slot.Extents)
    (room : Nat) : Extents (record.scan room) := by
  intro s x rest h
  unfold Record.scan at h
  split at h
  · cases h
  next hopen =>
    split at h
    · cases h
    next room _ =>
      obtain ⟨t, hinside, hclose⟩ := exists_of_inArray h
      obtain ⟨draft, hitems, -⟩ := exists_of_finish hinside
      exact skipValue_of_elements hopen (elements_of_scanItems hslots hitems) hclose
  next hopen =>
    split at h
    · cases h
    next room _ =>
      obtain ⟨t, hinside, hclose⟩ := exists_of_inObject h
      obtain ⟨draft, hfields, -⟩ := exists_of_finish hinside
      exact skipValue_of_fields hopen
        (fields_of_foldFieldsFrom (fieldExtents_fieldStep hslots) hfields) hclose
  · cases h

end Record

/-! ## 6. Choices and tagged values -/

variable {choices : List String}

theorem extents_scanVariant (choices : List String) : Extents (scanVariant choices) := by
  intro s name rest h
  unfold scanVariant at h
  split at h
  · cases h
  next hread =>
    split at h
    · cases h
      exact extents_scanText _ _ _ _ hread
    · cases h

/-- An object with the choice as its only key has one field. -/
theorem fields_of_choice {name : String} {u v : List Char}
    (hname : scanVariant choices s = .ok (name, t)) (hcolon : takeColon t = .ok u)
    (hunit : takeUnit u = .ok v) : Fields true s v := by
  have hkey : nextKey true s = .ok (some name, t) := by
    unfold scanVariant scanText at hname
    unfold nextKey scanKey
    grind
  have hskip : skipValue u = .ok v := by
    refine skipValue_of_skipScalar ?_
    unfold takeUnit at hunit
    unfold skipScalar skipWord
    grind
  exact .more hkey hcolon hskip (.done rfl)

theorem extents_scanChoice (choices : List String) (room : Nat) :
    Extents (scanChoice choices room) := by
  intro s name rest h
  unfold scanChoice at h
  split at h
  · cases h
  next hopen =>
    rw [← skipValue_skipSpace, hopen]
    exact extents_scanVariant choices _ _ _ h
  next hopen =>
    split at h
    · cases h
    split at h
    · cases h
    next hname =>
      split at h
      · cases h
      next hcolon =>
        split at h
        · cases h
        next hunit =>
          refine skipValue_of_fields hopen (fields_of_choice hname hcolon hunit) ?_
          unfold closeChoice at h
          unfold closeObject
          grind
  · cases h

theorem fieldExtents_taggedStep (room : Nat) : FieldExtents (TaggedDraft.step choices room) := by
  intro draft key s next rest hnext
  unfold TaggedDraft.step at hnext
  split at hnext
  · split at hnext
    · cases hnext
    split at hnext
    · cases hnext
    next hcolon =>
      obtain ⟨tag, htag, -⟩ := Read.eq_ok_of_map hnext
      exact ⟨_, hcolon, extents_scanVariant choices _ _ _ htag⟩
  · obtain ⟨fields, hfield, -⟩ := Read.eq_ok_of_map hnext
    exact fieldExtents_fieldStep (extents_scanValue room) _ _ _ _ _ hfield

theorem elements_of_scanTaggedItems {room : Nat} {tagged : Tagged}
    (h : scanTaggedItems choices room s = .ok (tagged, rest)) : Elements true s rest := by
  unfold scanTaggedItems at h
  split at h
  · cases h
  · cases h
  next hnext =>
    split at h
    · cases h
    next htag =>
      obtain ⟨items, hitems, -⟩ := Read.eq_ok_of_map h
      exact .more hnext (extents_scanVariant choices _ _ _ htag)
        (elements_of_foldItemsFrom (extents_itemStep (extents_scanValue room)) hitems)

theorem exists_of_finish_tagged {result : Read TaggedDraft} {tagged : Tagged}
    (h : TaggedDraft.finish result = .ok (tagged, rest)) : ∃ draft, result = .ok (draft, rest) := by
  unfold TaggedDraft.finish at h
  grind

theorem extents_scanTagged (title : String) (choices : List String) (room : Nat) :
    Extents (scanTagged title choices room) := by
  intro s tagged rest h
  unfold scanTagged at h
  split at h
  · cases h
  next hopen =>
    split at h
    · cases h
    next room _ =>
      obtain ⟨t, hinside, hclose⟩ := exists_of_inArray h
      exact skipValue_of_elements hopen (elements_of_scanTaggedItems hinside) hclose
  next hopen =>
    split at h
    · cases h
    next room _ =>
      obtain ⟨t, hinside, hclose⟩ := exists_of_inObject h
      obtain ⟨draft, hfields⟩ := exists_of_finish_tagged hinside
      exact skipValue_of_fields hopen
        (fields_of_foldFieldsFrom (fieldExtents_taggedStep room) hfields) hclose
  · cases h

/-- **A tagged value ends where it is passed over to.** -/
theorem extents_scanVariants {title : String} {ofTagged : Tagged → Except Cause α} (room : Nat) :
    Extents (scanVariants title choices ofTagged room) := by
  intro s x rest h
  unfold scanVariants at h
  split at h
  · cases h
  next hread =>
    split at h
    · cases h
    · cases h
      exact extents_scanTagged title choices room _ _ _ hread

end Stagecraft.Json
