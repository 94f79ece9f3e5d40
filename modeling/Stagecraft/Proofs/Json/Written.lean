import Stagecraft.Json.Printer
import Stagecraft.Json.Reader
import Stagecraft.Proofs.Json.Quoted

/-!
# What was written is read back

A value is written in one of two layouts, at some depth, with something behind it. That a scanner
reads it does not depend on any of that:

* `Json.Reads scan value x`: the scanner makes `x` of the text of the value, whatever the layout,
  and leaves what stands behind it;
* `Json.Reads.of_array`: elements that are read one by one are read as the elements of an array;
* `Json.Fills`: how a draft is filled by fields one after the other, and `Json.Reads.of_object`: an
  object whose fields do so is read into the draft;
* `Json.reads_text` and `Json.reads_list` are about strings and about lists of anything.
-/

namespace Stagecraft.Json

variable {layout : Layout} {depth : Nat} {blanks s rest closing : List Char} {c : Char}

/-! ## 1. Blanks -/

/-- Nothing but blanks. -/
def AllBlank (blanks : List Char) : Prop :=
  ∀ c ∈ blanks, isSpace c = true

theorem allBlank_nil : AllBlank [] := fun _ h => absurd h List.not_mem_nil

theorem skipSpace_append (h : AllBlank blanks) : skipSpace (blanks ++ s) = skipSpace s := by
  induction blanks with
  | nil => rfl
  | cons c blanks ih =>
      obtain ⟨hc, hblanks⟩ := List.forall_mem_cons.mp h
      rw [List.cons_append, skipSpace, if_pos hc, ih hblanks]

theorem skipSpace_cons (h : isSpace c = false) : skipSpace (c :: s) = c :: s := by
  rw [skipSpace, h]
  rfl

theorem allBlank_newLine (layout : Layout) (depth : Nat) : AllBlank (layout.newLine depth) := by
  intro c hc
  cases layout with
  | compact => exact absurd hc List.not_mem_nil
  | indented =>
      rcases List.mem_cons.mp hc with rfl | hc
      · rfl
      · rw [List.eq_of_mem_replicate hc]
        rfl

/-- Behind a colon there are only blanks. -/
theorem exists_takeColon (layout : Layout) :
    ∃ blanks, AllBlank blanks ∧ ∀ s, takeColon (layout.colon ++ s) = .ok (blanks ++ s) := by
  cases layout with
  | compact => exact ⟨[], allBlank_nil, fun _ => rfl⟩
  | indented => exact ⟨[' '], List.forall_mem_cons.mpr ⟨rfl, allBlank_nil⟩, fun _ => rfl⟩

/-! ## 2. Values -/

/-- What may stand behind a value: nothing, or what ends an element or a field. -/
def Follows (rest : List Char) : Prop :=
  ∀ c ∈ rest.head?, c = ',' ∨ c = ']' ∨ c = '\x7d' ∨ c = '\n'

theorem follows_nil : Follows [] := fun _ h => nomatch h

theorem follows_cons (h : c = ',' ∨ c = ']' ∨ c = '\x7d' ∨ c = '\n') : Follows (c :: s) := by
  intro other hother
  rw [List.head?_cons, Option.mem_some_iff] at hother
  exact hother ▸ h

theorem follows_newLine (h : Follows rest) : Follows (layout.newLine depth ++ rest) := by
  cases layout with
  | compact => exact h
  | indented => exact follows_cons (by simp)

/-- The text of the value begins with a character that neither is a blank nor ends an array. -/
def Value.Begins (value : Value) : Prop :=
  ∀ layout depth, ∃ c cs, value.write layout depth = c :: cs ∧ isSpace c = false ∧ c ≠ ']'

/-- **What a scanner makes of a written value**: it reads `x` in either layout and at any depth,
    behind blanks, and leaves what follows. -/
structure Reads {α : Type} (scan : Scan α) (value : Value) (x : α) : Prop where
  begins : value.Begins
  scans : ∀ (layout : Layout) (depth : Nat) {blanks rest : List Char}, AllBlank blanks →
    Follows rest → scan (blanks ++ (value.write layout depth ++ rest)) = .ok (x, rest)

theorem begins_string (text : String) : (Value.string text).Begins := by
  intro layout depth
  exact ⟨'"', _, rfl, rfl, by decide⟩

theorem begins_array (values : List Value) : (Value.array values).Begins := by
  intro layout depth
  cases values with
  | nil => exact ⟨'[', _, rfl, rfl, by decide⟩
  | cons value values => exact ⟨'[', _, rfl, rfl, by decide⟩

theorem begins_object (fields : List (String × Value)) : (Value.object fields).Begins := by
  intro layout depth
  cases fields with
  | nil => exact ⟨'\x7b', _, rfl, rfl, by decide⟩
  | cons field fields => exact ⟨'\x7b', _, rfl, rfl, by decide⟩

theorem Value.Begins.skipSpace {value : Value} (h : value.Begins) (layout : Layout) (depth : Nat)
    (hblanks : AllBlank blanks) (rest : List Char) :
    skipSpace (blanks ++ (value.write layout depth ++ rest)) =
      value.write layout depth ++ rest := by
  obtain ⟨c, cs, hwrite, hc, -⟩ := h layout depth
  rw [skipSpace_append hblanks, hwrite, List.cons_append, skipSpace_cons hc]

theorem Reads.scans_here {α : Type} {scan : Scan α} {value : Value} {x : α}
    (h : Reads scan value x) (layout : Layout) (depth : Nat) (hrest : Follows rest) :
    scan (value.write layout depth ++ rest) = .ok (x, rest) :=
  h.scans layout depth allBlank_nil hrest

/-- What is made of the read value does not matter to reading it. -/
theorem Reads.map {α β : Type} {scan : Scan α} {value : Value} {x : α} (h : Reads scan value x)
    (f : α → β) : Reads (fun s => Read.map f (scan s)) value (f x) where
  begins := h.begins
  scans layout depth _ _ hblanks hrest := by rw [h.scans layout depth hblanks hrest, Read.map]

/-! ## 3. Elements -/

section Elements

variable {α : Type} {read : Scan α} {of : α → Value} {value : Value} {values : List Value}
  {xs : List α}

/-- What stands behind the first of some elements: the others, with a comma before each. -/
def behindItem (layout : Layout) (depth : Nat) : List Value → List Char
  | [] => []
  | value :: values => ',' :: writeItems layout depth (value :: values)

theorem writeItems_cons : writeItems layout depth (value :: values) =
    layout.newLine depth ++ (value.write layout depth ++ behindItem layout depth values) := by
  cases values with
  | nil => rw [writeItems, behindItem, List.append_nil]
  | cons next values =>
      rw [writeItems, behindItem, List.append_assoc]
      exact fun h => nomatch h

theorem behindItem_cons : behindItem layout depth (value :: values) = ',' ::
    (layout.newLine depth ++ (value.write layout depth ++ behindItem layout depth values)) := by
  rw [behindItem, writeItems_cons]

theorem length_le_behindItem (layout : Layout) (depth : Nat) (values : List Value) :
    values.length ≤ (behindItem layout depth values).length := by
  induction values with
  | nil => exact Nat.le_refl 0
  | cons value values ih =>
      rw [behindItem_cons, List.length_cons, List.length_cons, List.length_append,
        List.length_append]
      omega

theorem nextItem_of_begins (h : value.Begins) :
    nextItem true (layout.newLine depth ++ (value.write layout depth ++ s)) =
      .ok (some (value.write layout depth ++ s)) := by
  have hskip := h.skipSpace layout depth (allBlank_newLine layout depth) s
  obtain ⟨c, cs, hwrite, -, hc⟩ := h layout depth
  rw [hwrite, List.cons_append] at hskip ⊢
  simp [nextItem, hskip]

theorem nextItem_behind (h : value.Begins) :
    nextItem false (',' :: (layout.newLine depth ++ (value.write layout depth ++ s))) =
      .ok (some (value.write layout depth ++ s)) := by
  have hskip := h.skipSpace layout depth (allBlank_newLine layout depth) s
  obtain ⟨c, cs, hwrite, -, hc⟩ := h layout depth
  rw [hwrite, List.cons_append] at hskip ⊢
  have hcomma : isSpace ',' = false := rfl
  simp [nextItem, skipSpace_cons hcomma, hskip, hc]

/-- The end of an array, with what stands behind it. -/
structure ClosesArray (closing rest : List Char) : Prop where
  follows : Follows closing
  skipSpace : skipSpace closing = ']' :: rest

theorem closesArray (layout : Layout) (depth : Nat) (rest : List Char) :
    ClosesArray (layout.newLine depth ++ ']' :: rest) rest where
  follows := follows_newLine (follows_cons (by simp))
  skipSpace := skipSpace_append (allBlank_newLine layout depth)

theorem ClosesArray.nextItem (h : ClosesArray closing rest) (first : Bool) :
    nextItem first closing = .ok none := by
  simp [Json.nextItem, h.skipSpace]

theorem ClosesArray.inArray (h : ClosesArray closing rest) (x : α) :
    inArray (.ok (x, closing)) = .ok (x, rest) := by
  simp [Json.inArray, closeArray, h.skipSpace]

theorem follows_behindItem (h : Follows closing) (layout : Layout) (depth : Nat)
    (values : List Value) : Follows (behindItem layout depth values ++ closing) := by
  cases values with
  | nil => exact h
  | cons => exact follows_cons (by simp)

/-- The loop over the elements behind the first one, by induction on them. -/
theorem foldItemsFrom_behindItem (hclosing : ClosesArray closing rest)
    (h : ∀ x ∈ xs, Reads read (of x) x) : ∀ (fuel : Nat) (done : List α), xs.length < fuel →
      foldItemsFrom (itemStep read) fuel false done
        (behindItem layout depth (xs.map of) ++ closing) = .ok (xs.reverse ++ done, closing) := by
  induction xs with
  | nil =>
      intro fuel done hfuel
      obtain ⟨fuel, rfl⟩ := Nat.exists_eq_add_one.mpr hfuel
      simp [foldItemsFrom, behindItem, hclosing.nextItem]
  | cons x xs ih =>
      intro fuel done hfuel
      obtain ⟨fuel, rfl⟩ := Nat.exists_eq_add_one.mpr (Nat.zero_lt_of_lt hfuel)
      obtain ⟨hx, hxs⟩ := List.forall_mem_cons.mp h
      have hmore := ih hxs fuel (x :: done) (Nat.lt_of_succ_lt_succ hfuel)
      have hread := hx.scans_here layout depth
        (follows_behindItem hclosing.follows layout depth (xs.map of))
      rw [List.map_cons, behindItem_cons, List.cons_append, List.append_assoc,
        List.append_assoc, foldItemsFrom, nextItem_behind hx.begins]
      dsimp only [itemStep]
      rw [hread]
      simpa using hmore

/-- The elements of an array, after its opening bracket. -/
theorem exists_foldItems (h : ∀ x ∈ xs, Reads read (of x) x) (layout : Layout) (depth : Nat)
    (rest : List Char) : ∃ s closing,
      (Value.array (xs.map of)).write layout depth ++ rest = '[' :: s ∧
      foldItems (itemStep read) true [] s = .ok (xs.reverse, closing) ∧
      ClosesArray closing rest := by
  cases xs with
  | nil =>
      refine ⟨']' :: rest, ']' :: rest, ?_, ?_, closesArray .compact 0 rest⟩
      · simp [Value.write]
      · have hnext : nextItem true (']' :: rest) = .ok none :=
          (closesArray .compact 0 rest).nextItem true
        rw [foldItems, foldItemsFrom, hnext]
        rfl
  | cons x xs =>
      have hclosing := closesArray layout depth rest
      obtain ⟨hx, hxs⟩ := List.forall_mem_cons.mp h
      refine ⟨layout.newLine (depth + 1) ++ ((of x).write layout (depth + 1) ++
        (behindItem layout (depth + 1) (xs.map of) ++ (layout.newLine depth ++ ']' :: rest))),
        layout.newLine depth ++ ']' :: rest, ?_, ?_, hclosing⟩
      · rw [List.map_cons, Value.write, writeItems_cons]
        simp only [List.cons_append, List.append_assoc, List.nil_append]
      · have hread := hx.scans_here layout (depth + 1)
          (follows_behindItem hclosing.follows layout (depth + 1) (xs.map of))
        rw [foldItems, foldItemsFrom, nextItem_of_begins hx.begins]
        dsimp only [itemStep]
        rw [hread]
        dsimp only
        rw [foldItemsFrom_behindItem hclosing hxs _ [x] ?_]
        · simp
        · have hlength := length_le_behindItem layout (depth + 1) (xs.map of)
          rw [List.length_map] at hlength
          simp only [List.length_append]
          omega

/-- **Elements that are read one by one are read as the elements of an array**, by any scanner that
    collects them with the loop. -/
theorem Reads.of_array {β : Type} {scan : Scan β} (make : List α → β)
    (hscan : ∀ s t, skipSpace s = '[' :: t →
      scan s = inArray (Read.map make (foldItems (itemStep read) true [] t)))
    (h : ∀ x ∈ xs, Reads read (of x) x) :
    Reads scan (.array (xs.map of)) (make xs.reverse) where
  begins := begins_array _
  scans layout depth blanks rest hblanks _ := by
    have hskip := (begins_array (xs.map of)).skipSpace layout depth hblanks rest
    obtain ⟨t, closing, ht, hfold, hclosing⟩ := exists_foldItems h layout depth rest
    rw [ht] at hskip ⊢
    rw [hscan _ t hskip, hfold, Read.map, hclosing.inArray]

end Elements

/-! ## 4. Fields -/

section Fields

variable {σ : Type} {step : σ → String → Scan σ} {draft last : σ} {key : String} {value : Value}
  {fields : List (String × Value)}

/-- What stands behind the first of some fields: the others, with a comma before each. -/
def behindField (layout : Layout) (depth : Nat) : List (String × Value) → List Char
  | [] => []
  | field :: fields => ',' :: writeFields layout depth (field :: fields)

theorem writeFields_cons : writeFields layout depth ((key, value) :: fields) =
    layout.newLine depth ++ (quoteChars key.toList ++ (layout.colon ++
      (value.write layout depth ++ behindField layout depth fields))) := by
  cases fields with
  | nil =>
      rw [writeFields, behindField]
      simp only [List.append_assoc, List.append_nil]
  | cons next fields =>
      rw [writeFields, behindField]
      · simp only [List.append_assoc]
      · exact fun h => nomatch h

theorem behindField_cons : behindField layout depth ((key, value) :: fields) = ',' ::
    (layout.newLine depth ++ (quoteChars key.toList ++ (layout.colon ++
      (value.write layout depth ++ behindField layout depth fields)))) := by
  rw [behindField, writeFields_cons]

theorem length_le_behindField (layout : Layout) (depth : Nat) (fields : List (String × Value)) :
    fields.length ≤ (behindField layout depth fields).length := by
  induction fields with
  | nil => exact Nat.le_refl 0
  | cons field fields ih =>
      rw [behindField_cons, List.length_cons, List.length_cons]
      simp only [List.length_append]
      omega

theorem scanKey_quoteChars (key : String) (s : List Char) :
    scanKey (key.toList.flatMap quotedChar ++ '"' :: s) = .ok (some key, s) := by
  rw [scanKey, scanString_quoted]

theorem nextKey_first (layout : Layout) (depth : Nat) (key : String) (s : List Char) :
    nextKey true (layout.newLine depth ++ (quoteChars key.toList ++ s)) = .ok (some key, s) := by
  have hquote : isSpace '"' = false := rfl
  rw [quoteChars_append]
  simp [nextKey, skipSpace_append (allBlank_newLine layout depth), skipSpace_cons hquote,
    scanKey_quoteChars]

theorem nextKey_behind (layout : Layout) (depth : Nat) (key : String) (s : List Char) :
    nextKey false (',' :: (layout.newLine depth ++ (quoteChars key.toList ++ s))) =
      .ok (some key, s) := by
  have hquote : isSpace '"' = false := rfl
  have hcomma : isSpace ',' = false := rfl
  rw [quoteChars_append]
  simp [nextKey, skipSpace_append (allBlank_newLine layout depth), skipSpace_cons hquote,
    skipSpace_cons hcomma, scanKey_quoteChars]

/-- The end of an object, with what stands behind it. -/
structure ClosesObject (closing rest : List Char) : Prop where
  follows : Follows closing
  skipSpace : skipSpace closing = '\x7d' :: rest

theorem closesObject (layout : Layout) (depth : Nat) (rest : List Char) :
    ClosesObject (layout.newLine depth ++ '\x7d' :: rest) rest where
  follows := follows_newLine (follows_cons (by simp))
  skipSpace := skipSpace_append (allBlank_newLine layout depth)

theorem ClosesObject.inObject {α : Type} (h : ClosesObject closing rest) (x : α) :
    inObject (.ok (x, closing)) = .ok (x, rest) := by
  simp [Json.inObject, closeObject, h.skipSpace]

theorem follows_behindField (h : Follows closing) (layout : Layout) (depth : Nat)
    (fields : List (String × Value)) : Follows (behindField layout depth fields ++ closing) := by
  cases fields with
  | nil => exact h
  | cons => exact follows_cons (by simp)

/-- The step takes a draft to the next one at a written field. -/
def StepReads (step : σ → String → Scan σ) (draft : σ) (key : String) (value : Value)
    (next : σ) : Prop :=
  ∀ (layout : Layout) (depth : Nat) {rest : List Char}, Follows rest →
    step draft key (layout.colon ++ (value.write layout depth ++ rest)) = .ok (next, rest)

/-- How a draft is filled by written fields, one after the other. -/
inductive Fills (step : σ → String → Scan σ) : σ → List (String × Value) → σ → Prop where
  | done (draft : σ) : Fills step draft [] draft
  | field {draft next last : σ} {key : String} {value : Value} {fields : List (String × Value)}
      (hfirst : StepReads step draft key value next) (hmore : Fills step next fields last) :
      Fills step draft ((key, value) :: fields) last

/-- Where each field is put before those that were read, all fields are. -/
theorem Fills.of_each (make : List (String × Value) → σ) (done : List (String × Value))
    (h : ∀ field ∈ fields, ∀ done,
      StepReads step (make done) field.1 field.2 (make (field :: done))) :
    Fills step (make done) fields (make (fields.reverse ++ done)) := by
  induction fields generalizing done with
  | nil => exact .done _
  | cons field fields ih =>
      obtain ⟨hfirst, hmore⟩ := List.forall_mem_cons.mp h
      rw [List.reverse_cons, List.append_assoc]
      exact .field (hfirst done) (ih (field :: done) hmore)

/-- The loop over the fields behind the first one, by induction on how they fill the draft. -/
theorem Fills.foldFieldsFrom_behindField (h : Fills step draft fields last)
    (hclosing : ClosesObject closing rest) : ∀ fuel : Nat, fields.length < fuel →
      foldFieldsFrom step fuel false draft (behindField layout depth fields ++ closing) =
        .ok (last, '\x7d' :: rest) := by
  induction h with
  | done draft =>
      intro fuel hfuel
      obtain ⟨fuel, rfl⟩ := Nat.exists_eq_add_one.mpr hfuel
      simp [foldFieldsFrom, behindField, nextKey, hclosing.skipSpace]
  | @field draft next last key value fields hfirst _ ih =>
      intro fuel hfuel
      obtain ⟨fuel, rfl⟩ := Nat.exists_eq_add_one.mpr (Nat.zero_lt_of_lt hfuel)
      have hread := hfirst layout depth
        (follows_behindField hclosing.follows layout depth fields)
      rw [behindField_cons]
      simp only [List.cons_append, List.append_assoc]
      rw [foldFieldsFrom, nextKey_behind]
      dsimp only
      rw [hread]
      exact ih fuel (Nat.lt_of_succ_lt_succ hfuel)

/-- The fields of an object, after its opening bracket. -/
theorem Fills.exists_foldFields (h : Fills step draft fields last) (layout : Layout) (depth : Nat)
    (rest : List Char) : ∃ s closing,
      (Value.object fields).write layout depth ++ rest = '\x7b' :: s ∧
      foldFields step draft s = .ok (last, closing) ∧ ClosesObject closing rest := by
  have hend := closesObject .compact 0 rest
  cases h with
  | done =>
      refine ⟨'\x7d' :: rest, '\x7d' :: rest, ?_, ?_, hend⟩
      · simp [Value.write]
      · rfl
  | @field _ next _ key value fields hfirst hmore =>
      have hclosing := closesObject layout depth rest
      refine ⟨layout.newLine (depth + 1) ++ (quoteChars key.toList ++ (layout.colon ++
        (value.write layout (depth + 1) ++ (behindField layout (depth + 1) fields ++
          (layout.newLine depth ++ '\x7d' :: rest))))), '\x7d' :: rest, ?_, ?_, hend⟩
      · rw [Value.write, writeFields_cons]
        simp only [List.cons_append, List.append_assoc, List.nil_append]
      · have hread := hfirst layout (depth + 1)
          (follows_behindField hclosing.follows layout (depth + 1) fields)
        rw [foldFields, foldFieldsFrom, nextKey_first]
        dsimp only
        rw [hread]
        dsimp only
        rw [hmore.foldFieldsFrom_behindField hclosing _ ?_]
        have hlength := length_le_behindField layout (depth + 1) fields
        have hquote : 0 < (quoteChars key.toList).length := by simp [quoteChars]
        simp only [List.length_append]
        omega

/-- **An object whose fields fill a draft is read as what is made of the draft**, by any scanner
    that fills it with the loop. -/
theorem Reads.of_object {α : Type} {scan : Scan α} {x : α} (finish : Read σ → Read α)
    (hscan : ∀ s t, skipSpace s = '\x7b' :: t →
      scan s = inObject (finish (foldFields step draft t)))
    (h : Fills step draft fields last) (hfinish : ∀ s, finish (.ok (last, s)) = .ok (x, s)) :
    Reads scan (.object fields) x where
  begins := begins_object fields
  scans layout depth blanks rest hblanks _ := by
    have hskip := (begins_object fields).skipSpace layout depth hblanks rest
    obtain ⟨t, closing, ht, hfold, hclosing⟩ := h.exists_foldFields layout depth rest
    rw [ht] at hskip ⊢
    rw [hscan _ t hskip, hfold, hfinish, hclosing.inObject]

end Fields

/-! ## 5. Strings and lists -/

/-- **A string is read back.** -/
theorem reads_text (expected text : String) : Reads (scanText expected) (.string text) text where
  begins := begins_string text
  scans layout depth blanks rest hblanks _ := by
    have hskip := (begins_string text).skipSpace layout depth hblanks rest
    rw [Value.write, quoteChars_append] at hskip ⊢
    rw [scanText, hskip]
    exact scanString_quoted text rest

/-- **A list is read back** if its elements are. -/
theorem reads_list {α : Type} {read : Nat → Scan α} {of : α → Value} {room : Nat} {xs : List α}
    (h : ∀ x ∈ xs, Reads (read room) (of x) x) :
    Reads (scanList read (room + 1)) (.array (xs.map of)) xs := by
  have hscan : ∀ s t, skipSpace s = '[' :: t → scanList read (room + 1) s =
      inArray (Read.map List.reverse (foldItems (itemStep (read room)) true [] t)) := by
    intro s t hskip
    rw [scanList, hskip]
    rfl
  have hlist := Reads.of_array List.reverse hscan h
  rwa [List.reverse_reverse] at hlist

end Stagecraft.Json
