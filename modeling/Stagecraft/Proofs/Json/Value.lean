import Stagecraft.Proofs.Json.Written

/-!
# Values are read back

A value whose numbers are sizes of 64 bits, with brackets that are not nested too deep, is the value
that is read from its text. Floats are left out: what is written of them is not what was read.

* `Json.scanNumber_toDigits`: the digits of a size are read as that size;
* `Json.Fits`: the values in question, and how many brackets they may open;
* `Json.Value.parse_text` is about whole texts in either layout.
-/

namespace Stagecraft.Json

variable {rest : List Char}

/-! ## 1. Sizes -/

theorem Follows.startsWithDigit (h : Follows rest) : startsWithDigit rest = false := by
  cases rest with
  | nil => rfl
  | cons c rest =>
      rcases h c rfl with rfl | rfl | rfl | rfl <;> rfl

/-- A number only grows by the digits behind it. -/
theorem le_ofDigitChars (digits : List Char) (n : Nat) : n ≤ Nat.ofDigitChars 10 digits n := by
  rw [Nat.ofDigitChars_eq_ofDigitChars_zero]
  have hpos : 0 < 10 ^ digits.length := Nat.pow_pos (by decide)
  exact Nat.le_add_right_of_le (Nat.le_mul_of_pos_left n hpos)

theorem takeDigits_append (bound : Nat) {digits : List Char} (hrest : startsWithDigit rest = false)
    (hdigits : ∀ c ∈ digits, c.isDigit = true) : ∀ n count : Nat,
      Nat.ofDigitChars 10 digits n < bound → takeDigits bound n count (digits ++ rest) =
        (Nat.ofDigitChars 10 digits n, count + digits.length, rest) := by
  induction digits with
  | nil =>
      intro n count _
      cases rest with
      | nil => rfl
      | cons c rest =>
          have hc : c.isDigit = false := hrest
          simp [takeDigits, digit?, hc]
  | cons c digits ih =>
      intro n count hbound
      obtain ⟨hc, hdigits⟩ := List.forall_mem_cons.mp hdigits
      rw [Nat.ofDigitChars_cons] at hbound ⊢
      have hnext : 10 * n + (c.toNat - 48) < bound :=
        Nat.lt_of_le_of_lt (le_ofDigitChars digits _) hbound
      have hmore := ih hdigits (10 * n + (c.toNat - 48)) (count + 1) hbound
      rw [List.cons_append, takeDigits, digit?, if_pos hc]
      dsimp only
      rw [if_pos hnext, hmore, List.length_cons, Nat.add_assoc, Nat.add_comm 1]
      rfl

/-- Only zero is written with a zero in front. -/
theorem exists_toDigits_eq_cons (n : Nat) : ∃ c cs, Nat.toDigits 10 n = c :: cs ∧
    c.isDigit = true ∧ (c = '0' → n = 0 ∧ cs = []) := by
  induction n using Nat.strongRecOn with
  | ind n ih =>
      rw [Nat.toDigits_eq_if (by decide)]
      split
      next h =>
        refine ⟨n.digitChar, [], rfl, ?_, fun hc => ⟨Nat.digitChar_eq_zero.mp hc, rfl⟩⟩
        rw [Nat.isDigit_digitChar]
        exact decide_eq_true h
      next h =>
        obtain ⟨c, cs, heq, hdigit, hc⟩ := ih (n / 10) (by omega)
        refine ⟨c, cs ++ [(n % 10).digitChar], by rw [heq, List.cons_append], hdigit,
          fun hzero => ?_⟩
        obtain ⟨hn, -⟩ := hc hzero
        omega

theorem scanAfterWhole_of_follows (n : Nat) (hrest : Follows rest) :
    scanAfterWhole false n rest = .ok (.whole n, rest) := by
  cases rest with
  | nil => rfl
  | cons c rest =>
      rcases hrest c rfl with rfl | rfl | rfl | rfl <;> rfl

/-- **The digits of a size are read as that size.** -/
theorem scanNumber_toDigits {n : Nat} (h : n < significandBound) (hrest : Follows rest) :
    scanNumber false (Nat.toDigits 10 n ++ rest) = .ok (.whole n, rest) := by
  have hdigits : ∀ c ∈ Nat.toDigits 10 n, c.isDigit = true := fun c hc =>
    Nat.isDigit_of_mem_toDigits (by decide) (by decide) hc
  have htake := takeDigits_append significandBound hrest.startsWithDigit hdigits 0 0
    (by rw [Nat.ofDigitChars_ten_toDigits]; exact h)
  rw [Nat.ofDigitChars_ten_toDigits] at htake
  obtain ⟨c, cs, heq, hc, hzero⟩ := exists_toDigits_eq_cons n
  rw [heq] at htake ⊢
  by_cases hfirst : c = '0'
  · obtain ⟨rfl, rfl⟩ := hzero hfirst
    subst hfirst
    simp [scanNumber, hrest.startsWithDigit, scanAfterWhole_of_follows 0 hrest]
  · have hstarts : startsWithDigit (c :: (cs ++ rest)) = true := hc
    rw [List.cons_append] at htake ⊢
    simp [scanNumber, hfirst, hstarts, htake, hrest.startsWithDigit,
      scanAfterWhole_of_follows n hrest]

/-! ## 2. Values of any kind -/

/-- The values whose numbers are sizes and that open at most `room` brackets inside each other. -/
inductive Fits : Nat → Value → Prop where
  | null (room : Nat) : Fits room .null
  | bool (room : Nat) (b : Bool) : Fits room (.bool b)
  | size (room : Nat) {n : Nat} (h : n < significandBound) : Fits room (.ofNat n)
  | string (room : Nat) (text : String) : Fits room (.string text)
  | array {room : Nat} {items : List Value} (h : ∀ item ∈ items, Fits room item) :
      Fits (room + 1) (.array items)
  | object {room : Nat} {fields : List (String × Value)} (h : ∀ field ∈ fields, Fits room field.2) :
      Fits (room + 1) (.object fields)

theorem write_ofNat (layout : Layout) (depth n : Nat) :
    (Value.ofNat n).write layout depth = Nat.toDigits 10 n := by
  show (toString (n : Int)).toList = _
  rw [Int.toString_eq_repr, Int.repr_eq_if, if_pos (Int.natCast_nonneg n), Int.toNat_natCast,
    Nat.toList_repr]

theorem ne_of_isDigit {c other : Char} (h : c.isDigit = true) (hother : other.isDigit = false) :
    c ≠ other := by
  rintro rfl
  rw [h] at hother
  cases hother

theorem isSpace_of_isDigit {c : Char} (h : c.isDigit = true) : isSpace c = false := by
  have hblank : c ≠ ' ' := ne_of_isDigit h rfl
  have hline : c ≠ '\n' := ne_of_isDigit h rfl
  have htab : c ≠ '\t' := ne_of_isDigit h rfl
  have hreturn : c ≠ '\r' := ne_of_isDigit h rfl
  simp [isSpace, hblank, hline, htab, hreturn]

theorem begins_size (n : Nat) : (Value.ofNat n).Begins := by
  intro layout depth
  obtain ⟨c, cs, hdigits, hc, -⟩ := exists_toDigits_eq_cons n
  exact ⟨c, cs, (write_ofNat layout depth n).trans hdigits, isSpace_of_isDigit hc,
    ne_of_isDigit hc rfl⟩

/-- What begins with a digit is read as a number. -/
theorem scanValue_of_isDigit (room : Nat) {c : Char} {s t : List Char} (h : c.isDigit = true)
    (hskip : skipSpace s = c :: t) : scanValue room s = scanNumberValue false (c :: t) := by
  have hbracket : c ≠ '[' := ne_of_isDigit h rfl
  have hbrace : c ≠ '\x7b' := ne_of_isDigit h rfl
  have hn : c ≠ 'n' := ne_of_isDigit h rfl
  have ht : c ≠ 't' := ne_of_isDigit h rfl
  have hf : c ≠ 'f' := ne_of_isDigit h rfl
  have hminus : c ≠ '-' := ne_of_isDigit h rfl
  have hquote : c ≠ '"' := ne_of_isDigit h rfl
  have hstarts : startsWithDigit (c :: t) = true := h
  rw [scanValue.eq_def, hskip]
  simp [scanScalar, hbracket, hbrace, hn, ht, hf, hminus, hquote, hstarts]

/-- Behind blanks, a size begins with a digit, and its digits are read as that size. -/
theorem exists_scanNumber_size {n : Nat} (h : n < significandBound) (layout : Layout) (depth : Nat)
    {blanks : List Char} (hblanks : AllBlank blanks) (hrest : Follows rest) :
    ∃ c cs, skipSpace (blanks ++ ((Value.ofNat n).write layout depth ++ rest)) = c :: cs ∧
      c.isDigit = true ∧ scanNumber false (c :: cs) = .ok (.whole n, rest) := by
  have hskip := (begins_size n).skipSpace layout depth hblanks rest
  have hnumber := scanNumber_toDigits h hrest
  rw [write_ofNat] at hskip ⊢
  obtain ⟨c, cs, hdigits, hc, -⟩ := exists_toDigits_eq_cons n
  rw [hdigits, List.cons_append] at hskip hnumber
  exact ⟨c, cs ++ rest, by rw [hdigits, List.cons_append, hskip], hc, hnumber⟩

theorem reads_size (room : Nat) {n : Nat} (h : n < significandBound) :
    Reads (scanValue room) (.ofNat n) (.ofNat n) where
  begins := begins_size n
  scans layout depth _ _ hblanks hrest := by
    obtain ⟨c, cs, hskip, hc, hnumber⟩ := exists_scanNumber_size h layout depth hblanks hrest
    rw [scanValue_of_isDigit room hc hskip, scanNumberValue, hnumber]
    rfl

/-- **A size is read back** where only a size may stand. -/
theorem reads_scanSize {n : Nat} (h : n < significandBound) : Reads scanSize (.ofNat n) n where
  begins := begins_size n
  scans layout depth _ _ hblanks hrest := by
    obtain ⟨c, cs, hskip, hc, hnumber⟩ := exists_scanNumber_size h layout depth hblanks hrest
    have hminus : c ≠ '-' := ne_of_isDigit hc rfl
    have hstarts : startsWithDigit (c :: cs) = true := hc
    rw [scanSize, hskip]
    simp [hminus, hstarts, hnumber, sizeOfNumber]

theorem reads_string (room : Nat) (text : String) :
    Reads (scanValue room) (.string text) (.string text) where
  begins := begins_string text
  scans layout depth blanks rest hblanks _ := by
    have hskip := (begins_string text).skipSpace layout depth hblanks rest
    rw [Value.write, quoteChars_append] at hskip ⊢
    rw [scanValue.eq_def, hskip]
    simp [scanScalar, scanStringValue, scanString_quoted]

theorem reads_null (room : Nat) : Reads (scanValue room) .null .null := by
  have hbegins : Value.null.Begins := fun _ _ => ⟨'n', _, rfl, rfl, by decide⟩
  refine ⟨hbegins, fun layout depth blanks rest hblanks _ => ?_⟩
  have hskip := hbegins.skipSpace layout depth hblanks rest
  rw [Value.write] at hskip ⊢
  rw [scanValue.eq_def, hskip]
  rfl

theorem reads_bool (room : Nat) (b : Bool) : Reads (scanValue room) (.bool b) (.bool b) := by
  have hbegins : (Value.bool b).Begins := by
    cases b with
    | false => exact fun _ _ => ⟨'f', _, rfl, rfl, by decide⟩
    | true => exact fun _ _ => ⟨'t', _, rfl, rfl, by decide⟩
  refine ⟨hbegins, fun layout depth blanks rest hblanks _ => ?_⟩
  have hskip := hbegins.skipSpace layout depth hblanks rest
  rw [scanValue.eq_def, hskip]
  cases b <;> rfl

theorem reads_array {room : Nat} {items : List Value}
    (h : ∀ item ∈ items, Reads (scanValue room) item item) :
    Reads (scanValue (room + 1)) (.array items) (.array items) := by
  have hscan : ∀ s t, skipSpace s = '[' :: t → scanValue (room + 1) s =
      inArray (Read.map (fun items => Value.array items.reverse)
        (foldItems (itemStep (scanValue room)) true [] t)) := by
    intro s t hskip
    rw [scanValue.eq_def, hskip]
    rfl
  have hitems : ∀ item ∈ items, Reads (scanValue room) (id item) item := h
  have harray := Reads.of_array (fun items => Value.array items.reverse) hscan hitems
  rwa [List.map_id, List.reverse_reverse] at harray

/-- A field of a value is put before those that were read. -/
theorem stepReads_fieldStep {α : Type} {read : Scan α} {value : Value} {x : α}
    (h : Reads read value x) (fields : List (String × α)) (key : String) :
    StepReads (fieldStep read) fields key value ((key, x) :: fields) := by
  intro layout depth rest hrest
  obtain ⟨blanks, hblanks, htake⟩ := exists_takeColon layout
  rw [fieldStep, htake]
  dsimp only
  rw [h.scans layout depth hblanks hrest]

theorem reads_object {room : Nat} {fields : List (String × Value)}
    (h : ∀ field ∈ fields, Reads (scanValue room) field.2 field.2) :
    Reads (scanValue (room + 1)) (.object fields) (.object fields) := by
  have hfills : Fills (fieldStep (scanValue room)) [] fields (fields.reverse ++ []) :=
    Fills.of_each id [] fun field hfield done => stepReads_fieldStep (h field hfield) done field.1
  refine Reads.of_object (Read.map fun fields => .object fields.reverse) ?_ hfills ?_
  · intro s t hskip
    rw [scanValue.eq_def, hskip]
    rfl
  · intro s
    rw [Read.map, List.append_nil, List.reverse_reverse]

/-- **A value is read back**, by induction on how its brackets are nested. -/
theorem Fits.reads {room : Nat} {value : Value} (h : Fits room value) :
    Reads (scanValue room) value value := by
  induction h with
  | null room => exact reads_null room
  | bool room b => exact reads_bool room b
  | size room hn => exact reads_size room hn
  | string room text => exact reads_string room text
  | array _ ih => exact reads_array ih
  | object _ ih => exact reads_object ih

/-! ## 3. Whole texts -/

theorem parse_text_of_reads {α : Type} {read : Nat → Scan α} {value : Value} {x : α}
    (h : Reads (read roomAtStart) value x) (layout : Layout) :
    parse read (value.text layout) = .ok x := by
  have hread := h.scans_here layout 0 follows_nil
  rw [List.append_nil] at hread
  unfold parse Value.text
  rw [String.toList_ofList, hread]
  rfl

/-- **A value is what its text is read as**, in either layout. -/
theorem Value.parse_text {value : Value} (h : Fits roomAtStart value) (layout : Layout) :
    Value.parse (value.text layout) = .ok value :=
  parse_text_of_reads h.reads layout

end Stagecraft.Json
