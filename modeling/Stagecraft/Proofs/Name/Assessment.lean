import Stagecraft.Proofs.Program.FirstDefect

/-!
# For what a name is refused

`Name.fault?` asks one question after the other. Here the questions are said each for itself,
without the ones before it, and a name is refused for the first of them that is answered with yes.

* `Name.IsWord` is the shape of an identifier in terms of its characters, and
  `Name.isIdentifier_iff` says that it is the one that is tested;
* `NameFault.Holds` is what a reason says of a name, `NameFault.rank` its place in the order, and
  `NameFault.IsFirst` puts the two together;
* `NameFault.message_injective`: no two reasons are given in the same words;
* `Name.every_name_is_classified` is about all names beside any others.
-/

namespace Stagecraft

namespace Name

variable {c : Char} {cs : List Char} {name : String} {taken more : List String}

/-! ## 1. Identifiers -/

/-- A letter of ASCII, of either case. -/
def IsLetter (c : Char) : Prop :=
  ('A' ≤ c ∧ c ≤ 'Z') ∨ ('a' ≤ c ∧ c ≤ 'z')

/-- A digit of ASCII. -/
def IsDigit (c : Char) : Prop :=
  '0' ≤ c ∧ c ≤ '9'

/-- The whole text is one letter or underscore, followed by letters, digits and underscores. -/
def IsWord (name : String) : Prop :=
  ∃ first rest, name.toList = first :: rest ∧ (IsLetter first ∨ first = '_') ∧
    ∀ c ∈ rest, IsLetter c ∨ IsDigit c ∨ c = '_'

theorem between_iff {low high : Char} :
    (decide (low ≤ c) && decide (c ≤ high)) = true ↔ low ≤ c ∧ c ≤ high := by
  rw [Bool.and_eq_true, decide_eq_true_iff, decide_eq_true_iff]

theorem isDigit_iff : c.isDigit = true ↔ IsDigit c :=
  between_iff

theorem isUpper_iff : c.isUpper = true ↔ 'A' ≤ c ∧ c ≤ 'Z' :=
  decide_eq_true_iff

theorem isAlpha_iff : c.isAlpha = true ↔ IsLetter c := by
  show (c.isUpper || c.isLower) = true ↔ IsLetter c
  rw [Bool.or_eq_true, isUpper_iff]
  exact or_congr_right between_iff

theorem isInitial_iff_isLetter : isInitial c = true ↔ IsLetter c ∨ c = '_' := by
  rw [isInitial, Bool.or_eq_true, isAlpha_iff, decide_eq_true_iff]

theorem isInner_iff : isInner c = true ↔ IsLetter c ∨ IsDigit c ∨ c = '_' := by
  rw [isInner, Char.isAlphanum, Bool.or_eq_true, Bool.or_eq_true, isAlpha_iff, isDigit_iff,
    decide_eq_true_iff, or_assoc]

theorem isIdentifier_iff : isIdentifier name.toList = true ↔ IsWord name := by
  unfold IsWord
  cases name.toList with
  | nil => simp [isIdentifier]
  | cons first rest =>
      simp [isIdentifier, isInitial_iff_isLetter, isInner_iff]

/-- The code points of the characters of an identifier. -/
theorem isInner_iff_toNat : isInner c = true ↔ (65 ≤ c.toNat ∧ c.toNat ≤ 90) ∨
    (97 ≤ c.toNat ∧ c.toNat ≤ 122) ∨ (48 ≤ c.toNat ∧ c.toNat ≤ 57) ∨ c.toNat = 95 := by
  have hu : c = '_' ↔ c.toNat = 95 := by rw [← Char.toNat_inj]; rfl
  rw [isInner_iff, hu]
  simp only [IsLetter, IsDigit, Char.le_def, UInt32.le_iff_toNat_le, or_assoc]
  exact Iff.rfl

theorem isBlank_of_isInner (h : isInner c = true) : Text.isBlank c = false := by
  have hc := isInner_iff_toNat.mp h
  simp only [Text.isBlank, Text.inRanges, Text.blankRanges, List.any_cons, List.any_nil,
    Bool.or_false, Bool.or_eq_false_iff, Bool.and_eq_false_iff, decide_eq_false_iff_not]
  omega

theorem IsWord.all_isInner (h : IsWord name) : ∀ c ∈ name.toList, isInner c = true := by
  obtain ⟨first, rest, hname, hfirst, hrest⟩ := h
  rw [hname]
  refine List.forall_mem_cons.mpr ⟨isInner_iff.mpr ?_, fun c hc => isInner_iff.mpr (hrest c hc)⟩
  rcases hfirst with hletter | hunderscore
  · exact .inl hletter
  · exact .inr (.inr hunderscore)

/-- No identifier starts with a digit. -/
theorem IsWord.not_startsWithDigit (h : IsWord name) :
    ¬ ∃ first rest, name.toList = first :: rest ∧ IsDigit first := by
  obtain ⟨first, rest, hname, hfirst, -⟩ := h
  rintro ⟨other, more, hother, hdigit⟩
  obtain ⟨rfl, -⟩ := List.cons.inj (hname.symm.trans hother)
  have hinitial := isInitial_iff.mp (isInitial_iff_isLetter.mpr hfirst)
  have hcode : 48 ≤ first.toNat ∧ first.toNat ≤ 57 := hdigit
  omega

end Name

/-! ## 2. Reasons and their order -/

namespace NameFault

variable {name : String} {names : List String} {fault other : NameFault}

/-- What a reason says of a name beside others. -/
def Holds (name : String) (names : List String) : NameFault → Prop
  | empty => ∀ c ∈ name.toList, Text.isBlank c = true
  | startsWithDigit => ∃ first rest, name.toList = first :: rest ∧ Name.IsDigit first
  | holdsSpace => ∃ c ∈ name.toList, Text.isBlank c = true
  | notIdentifier => ¬ Name.IsWord name
  | reserved word => word = name ∧ name ∈ Name.reservedWords
  | taken word => word = name ∧ name ∈ names

/-- The place of a reason in the order in which they are asked for. -/
def rank : NameFault → Nat
  | empty => 0
  | startsWithDigit => 1
  | holdsSpace => 2
  | notIdentifier => 3
  | reserved _ => 4
  | taken _ => 5

/-- The reason holds of the name, and none before it does. -/
def IsFirst (name : String) (names : List String) (fault : NameFault) : Prop :=
  fault.Holds name names ∧ ∀ other : NameFault, other.rank < fault.rank → ¬ other.Holds name names

/-- Of one name two reasons in the same place are the same. -/
theorem Holds.eq_of_rank_eq (h : fault.Holds name names) (hother : other.Holds name names)
    (hrank : other.rank = fault.rank) : other = fault := by
  cases fault <;> cases other <;> first | rfl | cases hrank
  case reserved.reserved.refl => exact congrArg reserved (hother.1.trans h.1.symm)
  case taken.taken.refl => exact congrArg taken (hother.1.trans h.1.symm)

/-- A name has one first reason. -/
theorem IsFirst.unique (h : fault.IsFirst name names) (hother : other.IsFirst name names) :
    other = fault := by
  refine h.1.eq_of_rank_eq hother.1 ?_
  rcases Nat.lt_trichotomy other.rank fault.rank with hlt | heq | hlt
  · exact absurd hother.1 (h.2 other hlt)
  · exact heq
  · exact absurd h.1 (hother.2 fault hlt)

/-! ## 3. Words -/

/-- The place of a reason, told from the end of a text that it closes. The two characters in front
    of the full stop are enough. -/
def rankOfWords (words : List Char) : Nat :=
  match words.reverse[1]?, words.reverse[2]? with
  | some 'y', _ => 0
  | some 't', _ => 1
  | some 's', _ => 2
  | some 'e', some 'r' => 3
  | some 'e', _ => 4
  | _, _ => 5

/-- What stands in front does not matter. -/
theorem rankOfWords_append {front back : List Char} (h : 2 < back.length) :
    rankOfWords (front ++ back) = rankOfWords back := by
  have hone : 1 < back.reverse.length := by
    rw [List.length_reverse]
    omega
  have htwo : 2 < back.reverse.length := by rwa [List.length_reverse]
  unfold rankOfWords
  rw [List.reverse_append, List.getElem?_append_left hone, List.getElem?_append_left htwo]

theorem message_reserved (name : String) : (reserved name).message =
    "\"" ++ (name ++ "\" is a reserved word of the language and cannot be used as a name.") := by
  show toString "\"" ++ toString name ++
    toString "\" is a reserved word of the language and cannot be used as a name." = _
  exact String.append_assoc ..

theorem message_taken (name : String) : (taken name).message =
    "There is already an actor called \"" ++ (name ++ "\".") := by
  show toString "There is already an actor called \"" ++ toString name ++ toString "\"." = _
  exact String.append_assoc ..

/-- A reason tells its place, also behind other words. -/
theorem rankOfWords_message (front : List Char) (fault : NameFault) :
    rankOfWords (front ++ fault.message.toList) = fault.rank := by
  cases fault with
  | empty => exact rankOfWords_append (by decide)
  | startsWithDigit => exact rankOfWords_append (by decide)
  | holdsSpace => exact rankOfWords_append (by decide)
  | notIdentifier =>
      refine (rankOfWords_append ?_).trans ?_
      · decide +kernel
      · decide +kernel
  | reserved name =>
      rw [message_reserved, ← String.append_assoc, String.toList_append, ← List.append_assoc]
      refine (rankOfWords_append ?_).trans ?_
      · decide +kernel
      · show _ = 4
        decide +kernel
  | taken name =>
      -- of this ending two characters are the reason's own
      rw [message_taken, ← String.append_assoc, String.toList_append, ← List.append_assoc]
      simp [rankOfWords, rank]

/-- **No two reasons are given in the same words.** -/
theorem message_injective : Function.Injective message := by
  intro fault other h
  have hrank : fault.rank = other.rank := by
    rw [← rankOfWords_message [], ← rankOfWords_message [], h]
  cases fault <;> cases other <;> first | rfl | cases hrank
  case reserved.reserved.refl name other =>
    rw [message_reserved, message_reserved, String.append_right_inj, String.append_left_inj] at h
    exact congrArg reserved h
  case taken.taken.refl name other =>
    rw [message_taken, message_taken, String.append_right_inj, String.append_left_inj] at h
    exact congrArg taken h

end NameFault

namespace Name

variable {name : String} {taken more : List String} {fault : NameFault}

/-! ## 4. The reason that is given -/

theorem startsWithDigit_iff :
    (name.toList.head?.map Char.isDigit).getD false = true ↔
      NameFault.startsWithDigit.Holds name taken := by
  show _ ↔ ∃ first rest, name.toList = first :: rest ∧ IsDigit first
  cases name.toList with
  | nil => simp
  | cons first rest => simp [isDigit_iff]

/-- Nothing about its shape speaks against an identifier. -/
theorem IsWord.not_holds (h : IsWord name) (hrank : fault.rank < 4) :
    ¬ fault.Holds name taken := by
  have hspace : ¬ ∃ c ∈ name.toList, Text.isBlank c = true := by
    rintro ⟨c, hc, hblank⟩
    rw [isBlank_of_isInner (h.all_isInner c hc)] at hblank
    cases hblank
  cases fault with
  | empty =>
      obtain ⟨first, rest, hname, -⟩ := h
      have hmem : first ∈ name.toList := hname ▸ List.mem_cons_self
      exact fun hall => hspace ⟨first, hmem, hall first hmem⟩
  | startsWithDigit => exact h.not_startsWithDigit
  | holdsSpace => exact hspace
  | notIdentifier => exact not_not.mpr h
  | reserved word => simp [NameFault.rank] at hrank
  | taken word => simp [NameFault.rank] at hrank

/-- A text of the wrong shape is refused for the first reason that is about its shape. -/
theorem isFirst_shapeFault (hword : ¬ IsWord name)
    (hempty : ¬ NameFault.empty.Holds name taken) :
    (shapeFault name.toList).IsFirst name taken := by
  unfold shapeFault
  split
  next hdigit =>
    refine ⟨startsWithDigit_iff.mp hdigit, fun other hlt => ?_⟩
    cases other <;> first | exact hempty | simp [NameFault.rank] at hlt
  next hdigit =>
    have hdigit : ¬ NameFault.startsWithDigit.Holds name taken := mt startsWithDigit_iff.mpr hdigit
    split
    next hspace =>
      refine ⟨List.any_eq_true.mp hspace, fun other hlt => ?_⟩
      cases other <;> first | exact hempty | exact hdigit | simp [NameFault.rank] at hlt
    next hspace =>
      have hspace : ¬ NameFault.holdsSpace.Holds name taken := mt List.any_eq_true.mpr hspace
      refine ⟨hword, fun other hlt => ?_⟩
      cases other <;>
        first | exact hempty | exact hdigit | exact hspace | simp [NameFault.rank] at hlt

/-- What is refused is refused for the first reason. -/
theorem isFirst_of_fault? (h : fault? taken name = some fault) : fault.IsFirst name taken := by
  unfold fault? at h
  split at h
  next hblank =>
    cases h
    exact ⟨List.all_eq_true.mp hblank, fun other hlt => absurd hlt (Nat.not_lt_zero _)⟩
  next hblank =>
    have hempty : ¬ NameFault.empty.Holds name taken := mt List.all_eq_true.mpr hblank
    split at h
    next hshape =>
      cases h
      exact isFirst_shapeFault (fun hword => by simp [isIdentifier_iff.mpr hword] at hshape) hempty
    next hshape =>
      have hword : IsWord name := isIdentifier_iff.mp (by simpa using hshape)
      split at h
      next hreserved =>
        cases h
        exact ⟨⟨rfl, List.contains_iff_mem.mp hreserved⟩, fun other hlt => hword.not_holds hlt⟩
      next hreserved =>
        split at h
        next htaken =>
          cases h
          refine ⟨⟨rfl, List.contains_iff_mem.mp htaken⟩, fun other hlt => ?_⟩
          cases other with
          | reserved word => exact fun hholds => hreserved (List.contains_iff_mem.mpr hholds.2)
          | taken word => exact absurd hlt (Nat.lt_irrefl 5)
          | _ => exact hword.not_holds (by decide)
        next => cases h

theorem fault?_eq_none_iff_isWord : fault? taken name = none ↔
    IsWord name ∧ name ∉ reservedWords ∧ name ∉ taken := by
  rw [fault?_eq_none_iff, Allowed, isIdentifier_iff, and_assoc]

/-- No reason holds of a name that is accepted. -/
theorem not_holds_of_accepted (h : fault? taken name = none) : ¬ fault.Holds name taken := by
  obtain ⟨hword, hreserved, htaken⟩ := fault?_eq_none_iff_isWord.mp h
  cases fault with
  | reserved word => exact fun hholds => hreserved hholds.2
  | taken word => exact fun hholds => htaken hholds.2
  | _ => exact hword.not_holds (by decide)

/-- **The reason that is given is the first one.** -/
theorem fault?_eq_some_iff : fault? taken name = some fault ↔ fault.IsFirst name taken := by
  constructor
  · exact isFirst_of_fault?
  · intro h
    cases hfault : fault? taken name with
    | none => exact absurd h.1 (not_holds_of_accepted hfault)
    | some other => rw [h.unique (isFirst_of_fault? hfault)]

/-- Among more names an accepted one may be taken, and nothing else changes. -/
theorem fault?_of_subset (h : taken ⊆ more) (name : String) :
    fault? more name = fault? taken name ∨
      fault? taken name = none ∧ fault? more name = some (.taken name) := by
  cases hfault : fault? taken name with
  | some fault => exact .inl (fault?_mono hfault h)
  | none =>
      obtain ⟨hallowed, -⟩ := fault?_eq_none_iff.mp hfault
      by_cases htaken : name ∈ more
      · exact .inr ⟨rfl, fault?_eq_taken hallowed htaken⟩
      · exact .inl (fault?_eq_none_iff.mpr ⟨hallowed, htaken⟩)

/-! ## 5. All names -/

/-- **Every name is classified**, beside any names that are taken. It is accepted exactly if the
    whole text is a letter or underscore followed by letters, digits and underscores, it is no word
    of the language, and it is not taken. Otherwise there is a first reason that holds of it, and
    that one is given; each reason has words of its own. No word of the language and nothing that is
    no identifier is called taken. Where more names are taken, an accepted name may be called taken,
    and no other answer changes. -/
theorem every_name_is_classified (name : String) (taken : List String) :
    (fault? taken name = none ↔ IsWord name ∧ name ∉ reservedWords ∧ name ∉ taken) ∧
    (∀ fault, fault? taken name = some fault ↔ fault.IsFirst name taken) ∧
    (¬ (IsWord name ∧ name ∉ reservedWords ∧ name ∉ taken) →
      ∃ fault : NameFault, fault.IsFirst name taken) ∧
    Function.Injective NameFault.message ∧
    (¬ IsWord name ∨ name ∈ reservedWords →
      ∀ word, fault? taken name ≠ some (.taken word)) ∧
    (∀ more, taken ⊆ more → fault? more name = fault? taken name ∨
      fault? taken name = none ∧ fault? more name = some (.taken name)) := by
  refine ⟨fault?_eq_none_iff_isWord, fun fault => fault?_eq_some_iff, fun h => ?_,
    NameFault.message_injective, fun h word htaken => ?_,
    fun more hsub => fault?_of_subset hsub name⟩
  · cases hfault : fault? taken name with
    | none => exact absurd (fault?_eq_none_iff_isWord.mp hfault) h
    | some fault => exact ⟨fault, fault?_eq_some_iff.mp hfault⟩
  · obtain ⟨-, hfirst⟩ := fault?_eq_some_iff.mp htaken
    rcases h with hword | hreserved
    · exact hfirst .notIdentifier (by simp [NameFault.rank]) hword
    · exact hfirst (.reserved name) (Nat.lt_succ_self 4) ⟨rfl, hreserved⟩

/-- Beside a cat another cat is taken and was not before. A word of the language is not called
    taken, also where it is among the names, and a digit in front speaks before the blank behind
    it. -/
theorem cat_is_taken_beside_cat :
    fault? ["for"] "Cat" = none ∧ fault? ["for", "Cat"] "Cat" = some (.taken "Cat") ∧
    (∀ word, fault? ["for", "Cat"] "for" ≠ some (.taken word)) ∧
    (∃ fault : NameFault, fault.IsFirst "for" ["for", "Cat"]) ∧
    NameFault.startsWithDigit.IsFirst "2 cats" ["for", "Cat"] := by
  have hfree : fault? ["for"] "Cat" = none := by decide
  have hsub : ["for"] ⊆ ["for", "Cat"] := by simp
  have hreserved : "for" ∈ reservedWords := by decide
  obtain ⟨-, -, -, -, -, hmore⟩ := every_name_is_classified "Cat" ["for"]
  obtain ⟨-, -, hrefused, -, hnever, -⟩ := every_name_is_classified "for" ["for", "Cat"]
  obtain ⟨-, hfirst, -⟩ := every_name_is_classified "2 cats" ["for", "Cat"]
  refine ⟨hfree, ?_, hnever (.inr hreserved), hrefused fun h => h.2.1 hreserved,
    (hfirst .startsWithDigit).mp (by decide)⟩
  rcases hmore ["for", "Cat"] hsub with hsame | ⟨-, htaken⟩
  · rw [hfree] at hsame
    exact absurd hsame (by decide)
  · exact htaken

end Name

end Stagecraft
