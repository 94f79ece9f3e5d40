import Stagecraft.Proofs.Text.Pieces

/-!
# What the lines of a text are

`lines` takes a text apart in one pass, with the carriage return before a line feed counted to the
end of the line. Here its result is said in other ways.

* `Paired` texts have no other carriage returns, and `findIdx?_lines_eq_some_iff` says in which
  line of any other text the first one stands;
* `lines_eq_cutLines`: replace every pair of a carriage return and a line feed by the line feed,
  cut at the line feeds, and leave out the last piece if it is empty;
* `lines_endLines` and `lines_joinLines`: which lines come back from the texts that are made of
  them.
-/

namespace Stagecraft.Text

variable {c : Char} {cs before after line rest mark : List Char} {text : String}
  {texts : List String}

/-! ## 1. Returns and the feeds behind them -/

/-- Every carriage return is directly followed by a line feed. -/
def Paired (cs : List Char) : Prop :=
  ∀ before after, cs = before ++ '\r' :: after → after.head? = some '\n'

/-- The first carriage return that no line feed follows has so many line feeds before it. -/
def FirstLoneReturn (cs : List Char) (feeds : Nat) : Prop :=
  ∃ before after, cs = before ++ '\r' :: after ∧ after.head? ≠ some '\n' ∧ Paired before ∧
    before.count '\n' = feeds

theorem paired_nil : Paired [] := by
  intro before after h
  simp at h

theorem paired_cons_iff : Paired (c :: cs) ↔ (c = '\r' → cs.head? = some '\n') ∧ Paired cs := by
  constructor
  · intro h
    refine ⟨fun hc => h [] cs (by rw [hc]; rfl), fun before after hcs => ?_⟩
    exact h (c :: before) after (by rw [hcs]; rfl)
  · rintro ⟨hfirst, hrest⟩ before after h
    cases before with
    | nil =>
        obtain ⟨hc, rfl⟩ := List.cons.inj h
        exact hfirst hc
    | cons _ before => exact hrest before after (List.cons.inj h).2

instance decidablePaired : ∀ cs, Decidable (Paired cs)
  | [] => .isTrue paired_nil
  | _ :: cs =>
    have := decidablePaired cs
    decidable_of_iff _ paired_cons_iff.symm

/-- Of two carriage returns in front of a line feed, the first one is alone. -/
example : Paired ['\r', '\n', '\n'] ∧ ¬ Paired ['\r', '\r', '\n'] := by decide

/-- A text is paired, or it has a first carriage return that is not. -/
theorem paired_or_exists_lone : ∀ cs : List Char, Paired cs ∨ ∃ feeds, FirstLoneReturn cs feeds
  | [] => .inl paired_nil
  | c :: cs => by
      by_cases hfirst : c = '\r' → cs.head? = some '\n'
      · rcases paired_or_exists_lone cs with hcs | ⟨_, before, after, rfl, hlone, hbefore, -⟩
        · exact .inl (paired_cons_iff.mpr ⟨hfirst, hcs⟩)
        · refine .inr ⟨_, c :: before, after, rfl, hlone, ?_, rfl⟩
          refine paired_cons_iff.mpr ⟨fun hc => ?_, hbefore⟩
          cases before with
          | nil => exact absurd (hfirst hc) (by simp)
          | cons _ before => exact hfirst hc
      · rw [Classical.not_imp] at hfirst
        obtain ⟨rfl, hlone⟩ := hfirst
        exact .inr ⟨0, [], cs, rfl, hlone, paired_nil, rfl⟩

/-! ## 2. The first broken line -/

theorem splitLines_cons (hfeed : c ≠ '\n') (hpair : c = '\r' → cs.head? ≠ some '\n') :
    splitLines (c :: cs) = consFirst c (splitLines cs) := by
  rw [splitLines]
  · exact hfeed
  · rintro rest hc rfl
    exact hpair hc rfl

/-- A character that breaks no line does not matter to which line is broken. -/
theorem findIdx?_consFirst (hc : isBreak c = false) (lines : List (List Char)) :
    (consFirst c lines).findIdx? (·.any isBreak) = lines.findIdx? (·.any isBreak) := by
  cases lines with
  | nil => simp [consFirst, hc]
  | cons line more => simp [consFirst, List.findIdx?_cons, hc]

/-- Behind an empty line the broken line is one further. -/
theorem findIdx?_emptyLine (lines : List (List Char)) :
    ([] :: lines).findIdx? (·.any isBreak) = (lines.findIdx? (·.any isBreak)).map (· + 1) := by
  rw [List.findIdx?_cons]
  rfl

/-- **Behind paired characters** the broken line is where it is without them, and as many lines
    further as they have line feeds. -/
theorem findIdx?_splitLines_append (rest : List Char) : Paired before →
    (splitLines (before ++ rest)).findIdx? (·.any isBreak) =
      ((splitLines rest).findIdx? (·.any isBreak)).map (· + before.count '\n') := by
  induction before using splitLines.induct with
  | case1 => simp
  | case2 before ih =>
      intro h
      rw [List.cons_append, splitLines, findIdx?_emptyLine, ih (paired_cons_iff.mp h).2,
        Option.map_map, List.count_cons_self]
      rfl
  | case3 before ih =>
      intro h
      have hbefore := (paired_cons_iff.mp (paired_cons_iff.mp h).2).2
      rw [List.cons_append, List.cons_append, splitLines, findIdx?_emptyLine, ih hbefore,
        Option.map_map, List.count_cons_of_ne (by decide), List.count_cons_self]
      rfl
  | case4 c before hfeed hpair ih =>
      intro h
      obtain ⟨hfirst, hbefore⟩ := paired_cons_iff.mp h
      -- a carriage return would have its line feed behind it, and that is the case before
      have hreturn : c ≠ '\r' := fun hc => by
        obtain ⟨more, hmore⟩ := List.head?_eq_some_iff.mp (hfirst hc)
        exact hpair more hc hmore
      have hbreak : isBreak c = false := by simp [isBreak, hreturn, show c ≠ '\n' from hfeed]
      rw [List.cons_append, splitLines_cons hfeed (fun hc => absurd hc hreturn),
        findIdx?_consFirst hbreak, ih hbefore, List.count_cons_of_ne hfeed]

/-- The lines of a paired text are unbroken. -/
theorem findIdx?_splitLines_of_paired (h : Paired cs) :
    (splitLines cs).findIdx? (·.any isBreak) = none := by
  have happend := findIdx?_splitLines_append [] h
  rwa [List.append_nil] at happend

/-- The first lone carriage return breaks the line in which it stands. -/
theorem findIdx?_splitLines_of_lone {feeds : Nat} (h : FirstLoneReturn cs feeds) :
    (splitLines cs).findIdx? (·.any isBreak) = some feeds := by
  obtain ⟨before, after, rfl, hlone, hbefore, rfl⟩ := h
  have hfirst : (consFirst '\r' (splitLines after)).findIdx? (·.any isBreak) = some 0 := by
    cases splitLines after with
    | nil => rfl
    | cons line more => rfl
  rw [findIdx?_splitLines_append _ hbefore, splitLines_cons (by decide) (fun _ => hlone), hfirst,
    Option.map_some, Nat.zero_add]

theorem findIdx?_lines (text : String) : (lines text).findIdx? hasBreak =
    (splitLines text.toList).findIdx? (·.any isBreak) := by
  rw [lines, List.findIdx?_map]
  simp only [Function.comp_def, hasBreak, String.toList_ofList]

/-- **No line is broken** exactly if every carriage return has its line feed. -/
theorem findIdx?_lines_eq_none_iff :
    (lines text).findIdx? hasBreak = none ↔ Paired text.toList := by
  rw [findIdx?_lines]
  constructor
  · intro h
    rcases paired_or_exists_lone text.toList with hpaired | ⟨feeds, hlone⟩
    · exact hpaired
    · rw [findIdx?_splitLines_of_lone hlone] at h
      cases h
  · exact findIdx?_splitLines_of_paired

/-- **The first broken line** is the one of the first carriage return without a line feed. -/
theorem findIdx?_lines_eq_some_iff {index : Nat} :
    (lines text).findIdx? hasBreak = some index ↔ FirstLoneReturn text.toList index := by
  rw [findIdx?_lines]
  constructor
  · intro h
    rcases paired_or_exists_lone text.toList with hpaired | ⟨feeds, hlone⟩
    · rw [findIdx?_splitLines_of_paired hpaired] at h
      cases h
    · rw [findIdx?_splitLines_of_lone hlone] at h
      exact Option.some.inj h ▸ hlone
  · exact findIdx?_splitLines_of_lone

/-! ## 3. Lines by replacing and cutting -/

/-- The characters with a line feed for every pair of a carriage return and a line feed. -/
def unpair : List Char → List Char
  | [] => []
  | '\r' :: '\n' :: cs => '\n' :: unpair cs
  | c :: cs => c :: unpair cs

/-- The items without the last one, if that is `x`. -/
def dropLastIf {α : Type} [DecidableEq α] (x : α) (items : List α) : List α :=
  if items.getLast? = some x then items.dropLast else items

/-- The pieces of a text whose pairs have been replaced, without an empty last one. -/
def cutLines (text : String) : List String :=
  dropLastIf "" (pieces (String.ofList (unpair text.toList)))

theorem unpair_cons (hpair : c = '\r' → cs.head? ≠ some '\n') :
    unpair (c :: cs) = c :: unpair cs := by
  rw [unpair]
  rintro rest hc rfl
  exact hpair hc rfl

section DropLast

variable {α : Type} [DecidableEq α] {x y : α} {items : List α}

theorem dropLastIf_cons (hne : items ≠ []) :
    dropLastIf x (y :: items) = y :: dropLastIf x items := by
  cases items with
  | nil => exact absurd rfl hne
  | cons z items =>
      unfold dropLastIf
      rw [List.getLast?_cons_cons, List.dropLast_cons_cons]
      split <;> rfl

theorem dropLastIf_map {β : Type} [DecidableEq β] {f : α → β} (hf : Function.Injective f) :
    dropLastIf (f x) (items.map f) = (dropLastIf x items).map f := by
  have hlast : (items.map f).getLast? = some (f x) ↔ items.getLast? = some x := by
    rw [List.getLast?_map, ← Option.map_some, (Option.map_injective hf).eq_iff]
  unfold dropLastIf
  simp only [hlast]
  split
  · exact List.map_dropLast.symm
  · rfl

/-- Nothing is dropped unless the last item is the one in question. -/
theorem dropLastIf_eq_self_iff : dropLastIf x items = items ↔ items.getLast? ≠ some x := by
  unfold dropLastIf
  by_cases hlast : items.getLast? = some x
  · rw [if_pos hlast]
    have hne : items ≠ [] := by
      rintro rfl
      cases hlast
    refine iff_of_false (fun h => hne ?_) (fun h => h hlast)
    -- with the last item dropped there is one less, unless there was none
    have hlength := congrArg List.length h
    rw [List.length_dropLast] at hlength
    exact List.length_eq_zero_iff.mp (by omega)
  · rw [if_neg hlast]
    exact iff_of_true rfl hlast

end DropLast

/-- To put a character in front of the first piece and to leave out an empty last one: what is left
    is what comes of putting it in front of the first line. -/
theorem dropLastIf_modifyHead {pieces : List (List Char)} (hne : pieces ≠ []) :
    dropLastIf [] (pieces.modifyHead (c :: ·)) = consFirst c (dropLastIf [] pieces) := by
  cases pieces with
  | nil => exact absurd rfl hne
  | cons first more =>
      cases more with
      | nil => by_cases hfirst : first = [] <;> simp [dropLastIf, consFirst, hfirst]
      | cons next more =>
          rw [List.modifyHead_cons, dropLastIf_cons (List.cons_ne_nil next more),
            dropLastIf_cons (List.cons_ne_nil next more), consFirst]

theorem splitOn_cons (cs : List Char) : (c :: cs).splitOn '\n' =
    if c = '\n' then [] :: cs.splitOn '\n' else (cs.splitOn '\n').modifyHead (c :: ·) := by
  unfold List.splitOn
  rw [List.splitOnP_cons_eq_if_modifyHead]
  simp only [beq_iff_eq]

theorem splitLines_eq (cs : List Char) :
    splitLines cs = dropLastIf [] ((unpair cs).splitOn '\n') := by
  induction cs using splitLines.induct with
  | case1 => rfl
  | case2 cs ih =>
      have hne : (unpair cs).splitOn '\n' ≠ [] := List.splitOnP_ne_nil _ _
      rw [splitLines, unpair_cons (fun hc => absurd hc (by decide)), ih, splitOn_cons,
        if_pos rfl, dropLastIf_cons hne]
  | case3 cs ih =>
      have hne : (unpair cs).splitOn '\n' ≠ [] := List.splitOnP_ne_nil _ _
      rw [splitLines, unpair, ih, splitOn_cons, if_pos rfl, dropLastIf_cons hne]
  | case4 c cs hfeed hpair ih =>
      have hne : (unpair cs).splitOn '\n' ≠ [] := List.splitOnP_ne_nil _ _
      have hhead : c = '\r' → cs.head? ≠ some '\n' := fun hc hhead => by
        obtain ⟨more, hmore⟩ := List.head?_eq_some_iff.mp hhead
        exact hpair more hc hmore
      rw [splitLines_cons hfeed hhead, unpair_cons hhead, ih, splitOn_cons, if_neg hfeed,
        dropLastIf_modifyHead hne]

/-- **The lines of a text** are its pieces between line feeds, once every pair of a carriage return
    and a line feed is replaced by the line feed, without an empty last piece. -/
theorem lines_eq_cutLines (text : String) : lines text = cutLines text := by
  have hempty : ("" : String) = String.ofList [] := rfl
  rw [lines, cutLines, pieces, String.toList_ofList, hempty,
    dropLastIf_map (fun _ _ h => String.ofList_injective h), splitLines_eq]

/-! ## 4. Texts of lines -/

/-- The text of `lines` with `mark` at the end of each of them. -/
def endLines (mark : List Char) (lines : List String) : String :=
  String.ofList (lines.flatMap fun line => line.toList ++ mark)

theorem foldr_consFirst (line first : List Char) (more : List (List Char)) :
    line.foldr consFirst (first :: more) = (line ++ first) :: more := by
  induction line with
  | nil => rfl
  | cons c line ih => rw [List.foldr_cons, ih, consFirst, List.cons_append]

theorem foldr_consFirst_nil (line : List Char) :
    line.foldr consFirst [] = dropLastIf [] [line] := by
  rcases List.eq_nil_or_concat line with rfl | ⟨line, c, rfl⟩
  · rfl
  · rw [List.concat_eq_append, List.foldr_append, List.foldr_cons, List.foldr_nil, consFirst,
      foldr_consFirst]
    simp [dropLastIf]

/-- Characters that break no line stand in front of the first line of what follows. -/
theorem splitLines_append (h : '\n' ∉ line ∧ '\r' ∉ line) (rest : List Char) :
    splitLines (line ++ rest) = line.foldr consFirst (splitLines rest) := by
  induction line with
  | nil => rfl
  | cons c line ih =>
      rw [List.mem_cons, List.mem_cons, not_or, not_or] at h
      obtain ⟨⟨hfeed, hline⟩, hreturn, hline'⟩ := h
      rw [List.cons_append, splitLines_cons (Ne.symm hfeed) (fun hc => absurd hc.symm hreturn),
        ih ⟨hline, hline'⟩, List.foldr_cons]

theorem splitLines_mark (hmark : mark = ['\n'] ∨ mark = ['\r', '\n']) (rest : List Char) :
    splitLines (mark ++ rest) = [] :: splitLines rest := by
  rcases hmark with rfl | rfl <;> rfl

/-- **Lines that all end in a mark come back**, whether that is a line feed or a carriage return
    with a line feed. -/
theorem lines_endLines (hmark : mark = ['\n'] ∨ mark = ['\r', '\n'])
    (h : ∀ line ∈ texts, hasBreak line = false) : lines (endLines mark texts) = texts := by
  have hsplit : splitLines (texts.flatMap fun line => line.toList ++ mark) =
      texts.map String.toList := by
    induction texts with
    | nil => rfl
    | cons line more ih =>
        obtain ⟨hline, hmore⟩ := List.forall_mem_cons.mp h
        rw [List.flatMap_cons, List.append_assoc,
          splitLines_append (hasBreak_eq_false_iff.mp hline), splitLines_mark hmark, ih hmore,
          foldr_consFirst, List.append_nil, List.map_cons]
  rw [lines, endLines, String.toList_ofList, hsplit, List.map_map]
  simp

theorem splitLines_joinChars : ∀ {texts : List String}, (∀ line ∈ texts, hasBreak line = false) →
    splitLines (joinChars (texts.map String.toList)) = dropLastIf [] (texts.map String.toList)
  | [], _ => rfl
  | [line], h => by
      have hline := splitLines_append (hasBreak_eq_false_iff.mp (h line List.mem_cons_self)) []
      rwa [List.append_nil, splitLines, foldr_consFirst_nil] at hline
  | line :: next :: more, h => by
      obtain ⟨hline, hmore⟩ := List.forall_mem_cons.mp h
      have hfirst : joinChars ((line :: next :: more).map String.toList) =
          line.toList ++ '\n' :: joinChars ((next :: more).map String.toList) := rfl
      rw [hfirst, splitLines_append (hasBreak_eq_false_iff.mp hline), splitLines, foldr_consFirst,
        List.append_nil, splitLines_joinChars hmore]
      exact (dropLastIf_cons (by simp)).symm

/-- **Joined lines come back** but for an empty last one. -/
theorem lines_joinLines (h : ∀ line ∈ texts, hasBreak line = false) :
    lines (joinLines texts) = dropLastIf "" texts := by
  have hempty : ("" : String).toList = [] := rfl
  rw [lines, joinLines, String.toList_ofList, splitLines_joinChars h, ← hempty,
    dropLastIf_map (fun _ _ h => String.toList_injective h), List.map_map]
  simp

/-- Lines are those of the text that they are joined to exactly if none of them is the last and
    empty. -/
theorem lines_joinLines_eq_iff (h : ∀ line ∈ texts, hasBreak line = false) :
    lines (joinLines texts) = texts ↔ texts.getLast? ≠ some "" := by
  rw [lines_joinLines h, dropLastIf_eq_self_iff]

end Stagecraft.Text
