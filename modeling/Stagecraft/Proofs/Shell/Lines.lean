import Stagecraft.Proofs.Codec.Program
import Stagecraft.Proofs.Ident.Forms
import Stagecraft.Proofs.Text.Pieces
import Stagecraft.Shell.Command

/-!
# Printed lines are read back

What the program prints is lines, each with a key and a value. Here is how a reader takes them
apart again, and that nothing is lost by it:

* `linesOf` cuts an output at its line feeds, and gives the lines that were printed if each of them
  is `OnOneLine`;
* `behind?` gives what stands behind a mark, `fieldsOf` what stands between bars;
* numbers, identifiers and JSON strings are `OnOneLine`, and each is read back by the reader that
  the program has for it.
-/

namespace Stagecraft

open Json Text

/-! ## 1. Texts on one line -/

/-- A text without line feeds. -/
def OnOneLine (text : String) : Prop :=
  '\n' ∉ text.toList

instance : DecidablePred OnOneLine := fun text => inferInstanceAs (Decidable ('\n' ∉ text.toList))

variable {text front back : String}

@[simp] theorem onOneLine_append :
    OnOneLine (front ++ back) ↔ OnOneLine front ∧ OnOneLine back := by
  unfold OnOneLine
  rw [String.toList_append, List.mem_append, not_or]

namespace Json

theorem not_mem_quotedChar (c : Char) : '\n' ∉ quotedChar c := by
  by_cases hcontrol : c.toNat < 0x20
  · have hall : ∀ n < 0x20, '\n' ∉ quotedChar (Char.ofNat n) := by decide
    exact forall_of_toNat_lt (P := fun c => '\n' ∉ quotedChar c) hall hcontrol
  · -- every other character stands as it is, if not behind a backslash
    have hne : c ≠ '\n' := by
      rintro rfl
      exact hcontrol (by decide)
    unfold quotedChar
    repeat' split
    all_goals first | contradiction | simp [Ne.symm hne]

/-- **A JSON string stands on one line**, whatever it holds. -/
@[simp] theorem onOneLine_quote (text : String) : OnOneLine (quote text) := by
  unfold OnOneLine quote quoteChars
  rw [String.toList_ofList, List.mem_append, List.mem_cons, List.mem_flatMap]
  rintro ((h | ⟨c, -, hc⟩) | h)
  · cases h
  · exact not_mem_quotedChar c hc
  · cases List.mem_singleton.mp h

end Json

/-- What a number is written with is digits. -/
theorem isDigit_of_mem_repr {n : Nat} {c : Char} (h : c ∈ n.repr.toList) : c.isDigit = true := by
  rw [Nat.toList_repr] at h
  exact Nat.isDigit_of_mem_toDigits (by decide) (by decide) h

@[simp] theorem onOneLine_repr (n : Nat) : OnOneLine n.repr := fun h => by
  cases isDigit_of_mem_repr h

@[simp] theorem onOneLine_ident (x : Ident) : OnOneLine x.text := fun h => by
  rcases Ident.eq_hyphen_or_isDigit_of_mem h with hc | hc <;> revert hc <;> decide

namespace Shell

/-! ## 2. Lines of an output -/

/-- The lines of an output, each of which ends in a line feed. -/
def linesOf (output : String) : List String :=
  (pieces output).dropLast

theorem pieces_printed : ∀ {lines : List String}, (∀ line ∈ lines, OnOneLine line) →
    pieces (printed lines) = lines ++ [""]
  | [], _ => rfl
  | line :: lines, h => by
      obtain ⟨hline, hlines⟩ := List.forall_mem_cons.mp h
      have hsplit : (printed (line :: lines)).toList =
          line.toList ++ '\n' :: (printed lines).toList := by
        simp [printed]
      have hfirst : ∀ c ∈ line.toList, (c == '\n') = false := fun c hc =>
        beq_eq_false_iff_ne.mpr fun heq => hline (heq ▸ hc)
      have hrest := pieces_printed hlines
      unfold pieces List.splitOn at hrest ⊢
      rw [hsplit, List.splitOnP_append_cons_of_forall_mem hfirst _ (beq_self_eq_true _),
        List.map_cons, hrest, String.ofList_toList, List.cons_append]

/-- **The lines that were printed** are those of the output. -/
theorem linesOf_printed {lines : List String} (h : ∀ line ∈ lines, OnOneLine line) :
    linesOf (printed lines) = lines := by
  rw [linesOf, pieces_printed h, List.dropLast_concat]

/-! ## 3. Values behind marks and between bars -/

/-- What stands behind a mark at the front of a line. -/
def behind? (mark line : String) : Option String :=
  (mark.toList.isPrefixOf? line.toList).map String.ofList

@[simp] theorem behind?_append (mark value : String) :
    behind? mark (mark ++ value) = some value := by
  have hprefix : ∀ cs : List Char, cs.isPrefixOf? (cs ++ value.toList) = some value.toList := by
    intro cs
    induction cs with
    | nil => rfl
    | cons c cs ih =>
        show (if c == c then cs.isPrefixOf? (cs ++ value.toList) else none) = some value.toList
        rw [if_pos (beq_self_eq_true c), ih]
  rw [behind?, String.toList_append, hprefix, Option.map_some, String.ofList_toList]

/-- A line with another key does not have the mark in front. -/
theorem behind?_append_of_ne {mark key : String}
    (h : ∃ pair ∈ mark.toList.zip key.toList, pair.1 ≠ pair.2) (value : String) :
    behind? mark (key ++ value) = none := by
  have hprefix : ∀ cs ds : List Char, (∃ pair ∈ cs.zip ds, pair.1 ≠ pair.2) →
      cs.isPrefixOf? (ds ++ value.toList) = none := by
    intro cs
    induction cs with
    | nil => rintro ds ⟨_, hpair, -⟩; cases hpair
    | cons c cs ih =>
        rintro (_ | ⟨d, ds⟩) ⟨pair, hpair, hne⟩
        · cases hpair
        show (if c == d then cs.isPrefixOf? (ds ++ value.toList) else none) = none
        split
        next heq =>
          rcases List.mem_cons.mp hpair with rfl | hpair
          · exact absurd (eq_of_beq heq) hne
          · exact ih ds ⟨pair, hpair, hne⟩
        next => rfl
  rw [behind?, String.toList_append, hprefix _ _ h, Option.map_none]

/-- What stands between the bars of a value. -/
def fieldsOf (value : String) : List String :=
  (value.toList.splitOn '|').map String.ofList

theorem fieldsOf_of_not_mem (h : '|' ∉ text.toList) : fieldsOf text = [text] := by
  have hall : ∀ c ∈ text.toList, (c == '|') = false := fun c hc =>
    beq_eq_false_iff_ne.mpr fun heq => h (heq ▸ hc)
  unfold fieldsOf List.splitOn
  rw [List.splitOnP_eq_singleton hall]
  simp

theorem fieldsOf_bar (h : '|' ∉ front.toList) (back : String) :
    fieldsOf (front ++ "|" ++ back) = front :: fieldsOf back := by
  have hall : ∀ c ∈ front.toList, (c == '|') = false := fun c hc =>
    beq_eq_false_iff_ne.mpr fun heq => h (heq ▸ hc)
  have hsplit : (front ++ "|" ++ back).toList = front.toList ++ '|' :: back.toList := by simp
  unfold fieldsOf List.splitOn
  rw [hsplit, List.splitOnP_append_cons_of_forall_mem hall _ (beq_self_eq_true _), List.map_cons,
    String.ofList_toList]

/-! ## 4. Numbers, identifiers and strings -/

/-- The number that a value is. -/
def readNumber (value : String) : Option Nat :=
  numberOf? value.toList

/-- **A number is read back.** -/
@[simp] theorem readNumber_repr (n : Nat) : readNumber n.repr = some n := by
  have hdigits : n.repr.toList.all Char.isDigit = true :=
    List.all_eq_true.mpr fun _ hc => isDigit_of_mem_repr hc
  have hne : n.repr.toList.isEmpty = false := by
    rw [Nat.toList_repr]
    exact List.isEmpty_eq_false_iff.mpr Nat.toDigits_ne_nil
  have hvalue : n.repr.toList.foldl (fun n c => 10 * n + (c.toNat - 48)) 0 = n := by
    rw [Nat.toList_repr]
    exact Nat.ofDigitChars_ten_toDigits
  rw [readNumber, numberOf?, hdigits, hne, hvalue]
  rfl

theorem bar_not_mem_repr (n : Nat) : '|' ∉ n.repr.toList := fun h => by
  cases isDigit_of_mem_repr h

theorem bar_not_mem_ident (x : Ident) : '|' ∉ x.text.toList := fun h => by
  rcases Ident.eq_hyphen_or_isDigit_of_mem h with hc | hc <;> revert hc <;> decide

/-- The identifier that a value is. -/
def readIdent (value : String) : Option Ident :=
  (Ident.read value).toOption

@[simp] theorem readIdent_text (x : Ident) : readIdent x.text = some x := by
  rw [readIdent, Ident.read_text]
  rfl

/-- The text that a value is as a JSON string. -/
def readQuoted (value : String) : Option String :=
  (parse Codec.scanString value).toOption

/-- **A JSON string is read back.** -/
@[simp] theorem readQuoted_quote (text : String) : readQuoted (quote text) = some text := by
  have hparse : parse Codec.scanString ((Value.string text).text .compact) = .ok text :=
    parse_text_of_reads (Codec.reads_scanString text) .compact
  have htext : (Value.string text).text .compact = quote text := rfl
  rw [readQuoted, ← htext, hparse]
  rfl

end Shell

end Stagecraft
