import Stagecraft.Proofs.Ident.Forms

/-!
# Identifiers and their texts correspond

The text of an identifier gives it back, the texts that give an identifier are those of the four
forms, and the order of the texts is the order of the identifiers.

* `Hex.digits_lt_digits_iff`: numbers are ordered as their digits are, if they have equally many;
* `Ident.hyphenate_lt_hyphenate_iff`: hyphens at the same places do not matter to the order;
* `Ident.id_texts_correspond` says all of it of the identifiers of actors and of handlers.
-/

namespace Stagecraft

/-! ## 1. The order of texts -/

/-- Behind fronts of one length, the backs matter only if the fronts are equal. -/
theorem append_lt_append_iff {front front' back back' : List Char}
    (h : front.length = front'.length) :
    front ++ back < front' ++ back' ↔ front < front' ∨ front = front' ∧ back < back' := by
  induction front generalizing front' with
  | nil =>
      obtain rfl : front' = [] := List.length_eq_zero_iff.mp h.symm
      simp
  | cons c front ih =>
      cases front' with
      | nil => cases h
      | cons c' front' =>
          rw [List.cons_append, List.cons_append, List.cons_lt_cons_iff, List.cons_lt_cons_iff,
            List.cons.injEq, ih (Nat.succ.inj h)]
          tauto

namespace Hex

theorem digit_lt_digit_iff {d e : Nat} (hd : d < 16) (he : e < 16) : digit d < digit e ↔ d < e := by
  have hall : ∀ d < 16, ∀ e < 16, (digit d < digit e ↔ d < e) := by decide
  exact hall d hd e he

/-- **Numbers are ordered as their digits**, by induction on how many there are. -/
theorem digits_lt_digits_iff {width m n : Nat} (hm : m < 16 ^ width) (hn : n < 16 ^ width) :
    digits width m < digits width n ↔ m < n := by
  induction width generalizing m n with
  | zero =>
      obtain rfl : m = 0 := by omega
      obtain rfl : n = 0 := by omega
      simp [digits]
  | succ width ih =>
      rw [Nat.pow_succ] at hm hn
      have hm' : m / 16 < 16 ^ width := by omega
      have hn' : n / 16 < 16 ^ width := by omega
      have hfront : digits width (m / 16) = digits width (n / 16) ↔ m / 16 = n / 16 := by
        refine ⟨fun h => ?_, fun h => by rw [h]⟩
        have hnumber := congrArg number? h
        rw [number?_digits hm', number?_digits hn'] at hnumber
        exact Option.some.inj hnumber
      have hlast : [digit (m % 16)] < [digit (n % 16)] ↔ m % 16 < n % 16 := by
        rw [List.cons_lt_cons_iff, digit_lt_digit_iff (Nat.mod_lt _ (by omega))
          (Nat.mod_lt _ (by omega))]
        simp
      rw [digits, digits, append_lt_append_iff (by rw [length_digits, length_digits]), hfront,
        hlast, ih hm' hn']
      omega

end Hex

namespace Ident

/-- **Hyphens at the same places** do not matter to the order. -/
theorem hyphenate_lt_hyphenate_iff : ∀ (sizes : List Nat) {cs ds : List Char},
    cs.length = ds.length → (hyphenate sizes cs < hyphenate sizes ds ↔ cs < ds)
  | [], _, _, _ => Iff.rfl
  | [_], _, _, _ => Iff.rfl
  | size :: next :: sizes, cs, ds, h => by
      have hfront : (cs.take size).length = (ds.take size).length := by
        rw [List.length_take, List.length_take, h]
      have hback : (cs.drop size).length = (ds.drop size).length := by
        rw [List.length_drop, List.length_drop, h]
      have ih := hyphenate_lt_hyphenate_iff (next :: sizes) hback
      rw [hyphenate_cons_cons, hyphenate_cons_cons, append_lt_append_iff hfront,
        List.cons_lt_cons_self, ih, ← append_lt_append_iff hfront, List.take_append_drop,
        List.take_append_drop]

/-- **Texts are ordered as the words.** -/
theorem text_lt_text_iff (x y : Ident) : x.text < y.text ↔ x < y := by
  have hlists : x.text < y.text ↔ x.text.toList < y.text.toList := Iff.rfl
  have hlength : x.digits.length = y.digits.length := by
    rw [digits, digits, Hex.length_digits, Hex.length_digits]
  rw [hlists, text, text, String.toList_ofList, String.toList_ofList,
    hyphenate_lt_hyphenate_iff _ hlength, BitVec.lt_def]
  exact Hex.digits_lt_digits_iff x.isLt y.isLt

/-! ## 2. Identifiers of actors and handlers -/

/-- Identifiers of a type, each with its word, and texts correspond to each other. -/
structure Correspond {α : Type} (word : α → Ident) (text : α → String)
    (read : String → Except IdentFault α) : Prop where
  /-- The text of an identifier gives it. -/
  reads_back : ∀ id, read (text id) = .ok id
  /-- A text gives an identifier exactly if it has thirty-two digits in one of the four forms. -/
  accepts : ∀ given, (∃ id, read given = .ok id) ↔
    ∃ digits, IsNumeral digits ∧ Written digits given.toList
  /-- The identifier's own text has these digits in lower case and in the hyphenated form. -/
  shows : ∀ given digits id, IsNumeral digits → Written digits given.toList →
    read given = .ok id → Grouped [8, 4, 4, 4, 12] (digits.map Char.toLower) (text id).toList
  /-- Two texts give the same identifier exactly if their digits agree but for the case. -/
  agrees : ∀ given other digits digits', IsNumeral digits → Written digits given.toList →
    IsNumeral digits' → Written digits' other.toList →
      (read given = read other ↔ digits.map Char.toLower = digits'.map Char.toLower)
  /-- Identifiers are ordered as their texts are. -/
  ordered : ∀ id id', word id < word id' ↔ text id < text id'

/-- Words correspond to their texts. -/
theorem correspond_words : Correspond id text Ident.read where
  reads_back := read_text
  accepts _ := exists_read_iff
  shows given digits x hnumeral hwritten hread := by
    rw [lower_eq_of_read hnumeral hwritten hread]
    exact grouped_text x
  agrees given other digits digits' hnumeral hwritten hnumeral' hwritten' := by
    obtain ⟨x, hx⟩ := exists_read_iff.mpr ⟨digits, hnumeral, hwritten⟩
    obtain ⟨y, hy⟩ := exists_read_iff.mpr ⟨digits', hnumeral', hwritten'⟩
    rw [hx, hy, lower_eq_of_read hnumeral hwritten hx, lower_eq_of_read hnumeral' hwritten' hy,
      Except.ok.injEq]
    exact ⟨congrArg Ident.digits, digits_injective⟩
  ordered x y := (text_lt_text_iff x y).symm

theorem map_read_eq_ok_iff {α : Type} {make : Ident → α} {word : α → Ident}
    (hmake : ∀ x, word (make x) = x) (hword : ∀ id, make (word id) = id) {given : String} {id : α} :
    make <$> Ident.read given = .ok id ↔ Ident.read given = .ok (word id) := by
  cases Ident.read given with
  | error fault => exact iff_of_false (fun h => nomatch h) (fun h => nomatch h)
  | ok x =>
      show Except.ok (make x) = .ok id ↔ _
      rw [Except.ok.injEq, Except.ok.injEq]
      exact ⟨fun h => by rw [← h, hmake], fun h => by rw [h, hword]⟩

/-- So does whatever stands for words, one for each. -/
theorem Correspond.wrap {α : Type} {make : Ident → α} {word : α → Ident}
    (hmake : ∀ x, word (make x) = x) (hword : ∀ id, make (word id) = id) :
    Correspond word (fun id => (word id).text) (fun given => make <$> Ident.read given) where
  reads_back id := (map_read_eq_ok_iff hmake hword).mpr (correspond_words.reads_back (word id))
  accepts given := by
    rw [← correspond_words.accepts given]
    constructor
    · rintro ⟨id, hid⟩
      exact ⟨word id, (map_read_eq_ok_iff hmake hword).mp hid⟩
    · rintro ⟨x, hx⟩
      exact ⟨make x, (map_read_eq_ok_iff hmake hword).mpr (by rw [hx, hmake])⟩
  shows given digits id hnumeral hwritten hread :=
    correspond_words.shows given digits (word id) hnumeral hwritten
      ((map_read_eq_ok_iff hmake hword).mp hread)
  agrees given other digits digits' hnumeral hwritten hnumeral' hwritten' := by
    rw [← correspond_words.agrees given other digits digits' hnumeral hwritten hnumeral' hwritten']
    obtain ⟨x, hx⟩ := exists_read_iff.mpr ⟨digits, hnumeral, hwritten⟩
    obtain ⟨y, hy⟩ := exists_read_iff.mpr ⟨digits', hnumeral', hwritten'⟩
    rw [hx, hy]
    show Except.ok (make x) = .ok (make y) ↔ _
    rw [Except.ok.injEq, Except.ok.injEq]
    exact ⟨fun h => by rw [← hmake x, h, hmake], fun h => by rw [h]⟩
  ordered id id' := correspond_words.ordered (word id) (word id')

/-- **Identifiers and their texts correspond**, those of actors and those of handlers alike: every
    word of 128 bits is read back from its text, the texts that are read are those with thirty-two
    digits of either case in one of the four forms, each is read as the identifier that shows these
    digits, and identifiers are ordered as their texts are. -/
theorem id_texts_correspond :
    Correspond ActorId.ident ActorId.text ActorId.read ∧
      Correspond HandlerId.ident HandlerId.text HandlerId.read :=
  ⟨.wrap (fun _ => rfl) fun _ => rfl, .wrap (fun _ => rfl) fun _ => rfl⟩

/-- Capitals in braces give the actor whose text has them in lower case, and it stands behind that
    of the actor with the number one. -/
theorem capitals_in_braces_give_actor : ∃ actor : ActorId,
    ActorId.read "\x7bABCDEF01-2345-6789-abcd-EF0123456789\x7d" = .ok actor ∧
      actor.text = "abcdef01-2345-6789-abcd-ef0123456789" ∧
      (⟨1⟩ : ActorId).text < actor.text := by
  have hread : ActorId.read "\x7bABCDEF01-2345-6789-abcd-EF0123456789\x7d" =
      .ok ⟨0xabcdef0123456789abcdef0123456789⟩ := by decide
  have hlt : (⟨1⟩ : ActorId).text < (⟨0xabcdef0123456789abcdef0123456789⟩ : ActorId).text :=
    (id_texts_correspond.1.ordered _ _).mp (by decide)
  exact ⟨_, hread, by decide, hlt⟩

end Ident

end Stagecraft
