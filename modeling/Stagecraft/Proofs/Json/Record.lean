import Stagecraft.Json.Tagged
import Stagecraft.Proofs.Json.Value

/-!
# Records are read back, and what was read has been checked

A record is written as an object with its fields in order. Reading fills a draft with one field
after the other, and completes it.

* `Record.stepReads_slot` is about one field, and `Record.reads` about a record whose fields are
  all there;
* `Json.reads_choice` and `Json.reads_variant` are about choices and tagged values;
* `Record.exists_draft_of_scan`: **whatever text a record was read from**, as an object with any
  keys or as an array, its draft has every property that each of its fields keeps.
-/

namespace Stagecraft.Json

variable {room : Nat}

/-! ## 1. Records -/

namespace Record

variable {δ α β : Type} {record : Record δ α} {fields : List (String × Value)} {draft : δ} {x : α}

/-- A field is read into the draft, if it is not there yet. -/
theorem stepReads_slot {slot : Slot δ} {key : String} {value : Value} {y : β} {read : Nat → Scan β}
    {put : δ → β → δ} (hslot : record.slots.find? (·.key == key) = some slot)
    (hread : slot.read = fill read put) (hempty : slot.isFilled draft = false)
    (h : Reads (read room) value y) :
    StepReads (record.fieldStep room) draft key value (put draft y) := by
  intro layout depth rest hrest
  obtain ⟨blanks, hblanks, htake⟩ := exists_takeColon layout
  have hvalue := h.scans layout depth hblanks hrest
  unfold Record.fieldStep
  simp [hslot, hempty, htake, hread, fill, hvalue, Read.map]

/-- **A record is read back**, if its fields fill a draft that is complete. -/
theorem reads (h : Fills (record.fieldStep room) record.empty fields draft)
    (hx : record.complete draft = .ok x) : Reads (record.scan (room + 1)) (.object fields) x := by
  refine Reads.of_object record.finish ?_ h ?_
  · intro s t hskip
    rw [Record.scan, hskip]
    rfl
  · intro s
    rw [finish, hx]

end Record

/-! ## 2. Choices and tagged values -/

section Tagged

variable {α : Type} {choices : List String} {title tag : String} {x : α}
  {fields : List (String × Value)}

theorem reads_scanVariant (h : choices.contains tag = true) :
    Reads (scanVariant choices) (.string tag) tag where
  begins := begins_string tag
  scans layout depth blanks rest hblanks hrest := by
    have htext := (reads_text "variant identifier" tag).scans layout depth hblanks hrest
    rw [scanVariant, htext]
    dsimp only
    rw [if_pos h]

/-- **A choice is read back.** -/
theorem reads_choice (h : choices.contains tag = true) :
    Reads (scanChoice choices room) (.string tag) tag where
  begins := begins_string tag
  scans layout depth blanks rest hblanks hrest := by
    have hskip := (begins_string tag).skipSpace layout depth hblanks rest
    have hvariant := (reads_scanVariant h).scans_here layout depth hrest
    rw [Value.write, quoteChars_append] at hskip hvariant ⊢
    rw [scanChoice, hskip]
    exact hvariant

theorem stepReads_tag (h : choices.contains tag = true) (fields : List (String × Value)) :
    StepReads (TaggedDraft.step choices room) ⟨none, fields⟩ tagKey (.string tag)
      ⟨some tag, fields⟩ := by
  intro layout depth rest hrest
  obtain ⟨blanks, hblanks, htake⟩ := exists_takeColon layout
  have htag := (reads_scanVariant h).scans layout depth hblanks hrest
  simp [TaggedDraft.step, htake, htag, Read.map]

/-- The fields beside a tag are kept as they are. -/
theorem stepReads_beside {key : String} {value : Value} (hkey : key ≠ tagKey)
    (h : Reads (scanValue room) value value) (tag : Option String)
    (fields : List (String × Value)) :
    StepReads (TaggedDraft.step choices room) ⟨tag, fields⟩ key value
      ⟨tag, (key, value) :: fields⟩ := by
  intro layout depth rest hrest
  have hfield := stepReads_fieldStep h fields key layout depth hrest
  rw [TaggedDraft.step, if_neg hkey, hfield]
  rfl

/-- **A tagged value is read back**, with the tag in front and beside it fields that are read back,
    if `ofTagged` makes something of tag and fields. -/
theorem reads_variant {ofTagged : Tagged → Except Cause α} (htag : choices.contains tag = true)
    (hfields : ∀ field ∈ fields, field.1 ≠ tagKey ∧ Reads (scanValue room) field.2 field.2)
    (hx : ofTagged ⟨tag, .object fields⟩ = .ok x) :
    Reads (scanVariants title choices ofTagged (room + 1))
      (.object ((tagKey, .string tag) :: fields)) x := by
  have hbeside : Fills (TaggedDraft.step choices room) ⟨some tag, []⟩ fields
      ⟨some tag, fields.reverse ++ []⟩ :=
    Fills.of_each (TaggedDraft.mk (some tag)) [] fun field hfield done =>
      stepReads_beside (hfields field hfield).1 (hfields field hfield).2 (some tag) done
  have htagged : Reads (scanTagged title choices (room + 1))
      (.object ((tagKey, .string tag) :: fields)) ⟨tag, .object fields⟩ := by
    refine Reads.of_object TaggedDraft.finish ?_ (.field (stepReads_tag htag []) hbeside) ?_
    · intro s t hskip
      rw [scanTagged, hskip]
      rfl
    · intro s
      rw [TaggedDraft.finish, List.append_nil, List.reverse_reverse]
  refine ⟨htagged.begins, fun layout depth blanks rest hblanks hrest => ?_⟩
  rw [scanVariants, htagged.scans layout depth hblanks hrest]
  dsimp only
  rw [hx]

end Tagged

/-! ## 3. What was read has been checked -/

section Checked

variable {δ σ α β : Type} {x : α} {s rest : List Char}

theorem Read.eq_ok_of_map {f : β → α} {result : Read β} (h : Read.map f result = .ok (x, rest)) :
    ∃ y, result = .ok (y, rest) ∧ f y = x := by
  cases result with
  | error fault => cases h
  | ok read =>
      cases h
      exact ⟨read.1, rfl, rfl⟩

theorem exists_of_inArray {result : Read α} (h : inArray result = .ok (x, rest)) :
    ∃ s, result = .ok (x, s) ∧ closeArray s = .ok rest := by
  cases result with
  | error fault => cases h
  | ok read =>
      obtain ⟨y, s⟩ := read
      unfold inArray at h
      dsimp only at h
      split at h
      · cases h
      next hclose =>
        cases h
        exact ⟨s, rfl, hclose⟩

theorem exists_of_inObject {result : Read α} (h : inObject result = .ok (x, rest)) :
    ∃ s, result = .ok (x, s) ∧ closeObject s = .ok rest := by
  cases result with
  | error fault => cases h
  | ok read =>
      obtain ⟨y, s⟩ := read
      unfold inObject at h
      dsimp only at h
      split at h
      · cases h
      next hclose =>
        cases h
        exact ⟨s, rfl, hclose⟩

/-- What each field keeps, the loop over the fields keeps. -/
theorem keeps_foldFieldsFrom {step : σ → String → Scan σ} {keeps : σ → Prop}
    (hstep : ∀ draft key s next rest, keeps draft → step draft key s = .ok (next, rest) →
      keeps next)
    {last : σ} : ∀ (fuel : Nat) (first : Bool) (draft : σ) (s : List Char), keeps draft →
      foldFieldsFrom step fuel first draft s = .ok (last, rest) → keeps last := by
  intro fuel
  induction fuel with
  | zero =>
      intro first draft s _ h
      cases h
  | succ fuel ih =>
      intro first draft s hdraft h
      unfold foldFieldsFrom at h
      split at h
      · cases h
      · cases h
        exact hdraft
      next key s' _ =>
        split at h
        · cases h
        next next s'' hnext => exact ih false next s'' (hstep draft key s' next s'' hdraft hnext) h

/-- The field keeps a property of drafts, whatever its value is read from. -/
def Slot.Keeps (slot : Slot δ) (keeps : δ → Prop) : Prop :=
  ∀ room draft s next rest, keeps draft → slot.read room draft s = .ok (next, rest) → keeps next

theorem Slot.keeps_of_fill {slot : Slot δ} {keeps : δ → Prop} {read : Nat → Scan β}
    {put : δ → β → δ} (hread : slot.read = fill read put)
    (h : ∀ room draft s y rest, keeps draft → read room s = .ok (y, rest) → keeps (put draft y)) :
    slot.Keeps keeps := by
  intro room draft s next rest hdraft hnext
  rw [hread] at hnext
  obtain ⟨y, hy, rfl⟩ := Read.eq_ok_of_map hnext
  exact h room draft s y rest hdraft hy

namespace Record

variable {record : Record δ α} {keeps : δ → Prop}

theorem keeps_scanItems {title : String} {total : Nat} {last : δ} : ∀ (slots : List (Slot δ)),
    (∀ slot ∈ slots, slot.Keeps keeps) → ∀ (count : Nat) (draft : δ) (s : List Char), keeps draft →
      scanItems title total room slots count draft s = .ok (last, rest) → keeps last := by
  intro slots
  induction slots with
  | nil =>
      intro _ count draft s hdraft h
      cases h
      exact hdraft
  | cons slot slots ih =>
      intro hslots count draft s hdraft h
      obtain ⟨hslot, hslots⟩ := List.forall_mem_cons.mp hslots
      unfold scanItems at h
      split at h
      · cases h
      · cases h
      next s' _ =>
        split at h
        · cases h
        next next s'' hnext =>
          exact ih hslots (count + 1) next s'' (hslot room draft s' next s'' hdraft hnext) h

theorem keeps_fieldStep (hslots : ∀ slot ∈ record.slots, slot.Keeps keeps) (draft : δ)
    (key : String) (s : List Char) (next : δ) (rest : List Char) (hdraft : keeps draft)
    (h : record.fieldStep room draft key s = .ok (next, rest)) : keeps next := by
  unfold Record.fieldStep at h
  split at h
  next slot hslot =>
    split at h
    · cases h
    split at h
    · cases h
    next s' _ =>
      exact hslots slot (List.mem_of_find?_eq_some hslot) room draft s' next rest hdraft h
  next =>
    -- a key that is not known leaves the draft as it is
    split at h
    · cases h
    split at h
    · cases h
    · cases h
      exact hdraft

theorem exists_of_finish {result : Read δ} (h : record.finish result = .ok (x, rest)) :
    ∃ draft, result = .ok (draft, rest) ∧ record.complete draft = .ok x := by
  cases result with
  | error fault => cases h
  | ok read =>
      obtain ⟨draft, s⟩ := read
      unfold finish at h
      dsimp only at h
      split at h
      · cases h
      next hcomplete =>
        cases h
        exact ⟨draft, rfl, hcomplete⟩

/-- **What every field keeps is true of the draft of a record that was read**, from whatever
    text. -/
theorem exists_draft_of_scan (hempty : keeps record.empty)
    (hslots : ∀ slot ∈ record.slots, slot.Keeps keeps) (h : record.scan room s = .ok (x, rest)) :
    ∃ draft, keeps draft ∧ record.complete draft = .ok x := by
  unfold Record.scan at h
  split at h
  · cases h
  next =>
    -- an array of the values
    split at h
    · cases h
    next room _ =>
      obtain ⟨s', hinside, -⟩ := exists_of_inArray h
      obtain ⟨draft, hscan, hcomplete⟩ := exists_of_finish hinside
      exact ⟨draft, keeps_scanItems record.slots hslots 0 record.empty _ hempty hscan, hcomplete⟩
  next =>
    -- an object with keys
    split at h
    · cases h
    next room _ =>
      obtain ⟨s', hinside, -⟩ := exists_of_inObject h
      obtain ⟨draft, hscan, hcomplete⟩ := exists_of_finish hinside
      have hdraft : keeps draft :=
        keeps_foldFieldsFrom (keeps_fieldStep hslots) _ true record.empty _ hempty hscan
      exact ⟨draft, hdraft, hcomplete⟩
  · cases h

end Record

end Checked

end Stagecraft.Json
