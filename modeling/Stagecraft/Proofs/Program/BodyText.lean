import Stagecraft.Proofs.Program.Undo
import Stagecraft.Proofs.Text.Lines

/-!
# Bodies given as texts

`Edit.setBodyText` cuts a text into lines and sets them as the body of a handler. Whether it does,
and what it sets, is said here by the characters of the text.

* `Program.handler?_updateHandler`: a handler that was changed is found as it is now;
* `Program.setBodyText_of_paired` and `Program.setBodyText_of_lone`: which texts are set, and for
  which line the others are refused;
* `Edit.Stores`: a call leaves a handler with the given lines;
* `Program.body_texts_are_cut` is about all texts, and about the texts that are made of lines.
-/

namespace Stagecraft

/-- However it is called, the edit is carried out, and leaves the handler with `lines` as its
    body. -/
def Edit.Stores (edit : Edit) (program : Program) (actor : ActorId) (handler : HandlerId)
    (lines : List String) : Prop :=
  ∀ fresh, ∃ changed, edit.apply fresh program = .ok (changed, .done) ∧
    (changed.handler? actor handler).map Handler.body = some lines

namespace Program

open Text

variable {program : Program} {actor : ActorId} {handler : HandlerId} {found : Handler}
  {text : String} {lines : List String}

/-! ## 1. One text -/

theorem missing?_of_handler? (hfound : program.handler? actor handler = some found) :
    program.missing? actor handler = none := by
  obtain ⟨a, ha, hh⟩ := Option.bind_eq_some_iff.mp hfound
  exact missing?_eq_none_iff.mpr ⟨a, ha, found, hh⟩

/-- A handler that was changed is found as it is now. -/
theorem handler?_updateHandler (hfound : program.handler? actor handler = some found)
    {change : Handler → Handler} (hid : ∀ old, (change old).id = old.id) :
    (program.updateHandler actor handler change).handler? actor handler = some (change found) := by
  obtain ⟨a, ha, hh⟩ := Option.bind_eq_some_iff.mp hfound
  have hthis : found.id = handler := by simpa using List.find?_some hh
  unfold updateHandler handler?
  rw [actor?_updateHandlers ha, Option.bind_some, Actor.handler?, List.find?_map]
  simp only [Function.comp_def, key_update hid handler]
  rw [← Actor.handler?, hh, Option.map_some, if_pos hthis]

/-- A text with unbroken lines is set. -/
theorem exists_setBodyText (hfound : program.handler? actor handler = some found)
    (h : ∀ line ∈ Text.lines text, hasBreak line = false) :
    ∃ changed, program.setBodyText actor handler text = .ok changed ∧
      changed.handler? actor handler = some { found with body := Text.lines text } :=
  ⟨_, setBody_eq_ok_iff.mpr ⟨missing?_of_handler? hfound, h, rfl⟩,
    handler?_updateHandler hfound fun _ => rfl⟩

/-- **A text whose carriage returns have their line feeds is set**, cut into lines. -/
theorem setBodyText_of_paired (hfound : program.handler? actor handler = some found)
    (h : Paired text.toList) : ∃ changed, program.setBodyText actor handler text = .ok changed ∧
      changed.handler? actor handler = some { found with body := cutLines text } := by
  have hlines : ∀ line ∈ Text.lines text, hasBreak line = false :=
    List.findIdx?_eq_none_iff.mp (findIdx?_lines_eq_none_iff.mpr h)
  rw [← lines_eq_cutLines]
  exact exists_setBodyText hfound hlines

/-- **Any other text is refused** for the line of its first lone carriage return. -/
theorem setBodyText_of_lone (hfound : program.handler? actor handler = some found) {feeds : Nat}
    (h : FirstLoneReturn text.toList feeds) :
    program.setBodyText actor handler text = .error (.brokenLine feeds) :=
  setBody_eq_brokenLine (missing?_of_handler? hfound) (findIdx?_lines_eq_some_iff.mpr h)

/-! ## 2. Texts of lines -/

/-- A text stores its own lines, if none of them is broken, and no others. -/
theorem stores_setBodyText_iff (hfound : program.handler? actor handler = some found) :
    (Edit.setBodyText actor handler text).Stores program actor handler lines ↔
      Text.lines text = lines ∧ ∀ line ∈ lines, hasBreak line = false := by
  constructor
  · intro hstores
    obtain ⟨_, happly, hbody⟩ := hstores 0
    rw [Edit.apply_eq_result] at happly
    obtain ⟨_, hok, heq⟩ := Except.map_eq_ok_iff.mp happly
    cases heq
    -- what was set has passed the check of its lines, so it is known what it left
    have hlines := (setBody_eq_ok_iff.mp hok).2.1
    obtain ⟨_, hset, hnow⟩ := exists_setBodyText hfound hlines
    rw [hset] at hok
    cases hok
    rw [hnow] at hbody
    cases hbody
    exact ⟨rfl, hlines⟩
  · rintro ⟨rfl, hlines⟩ fresh
    obtain ⟨changed, hset, hnow⟩ := exists_setBodyText hfound hlines
    refine ⟨changed, ?_, by rw [hnow]; rfl⟩
    rw [Edit.apply_eq_result]
    exact Except.map_eq_ok_iff.mpr ⟨changed, hset, rfl⟩

/-- **Lines that all end in a mark are stored**, whether that is a line feed or a carriage return
    with a line feed. -/
theorem stores_endLines (hfound : program.handler? actor handler = some found)
    (h : ∀ line ∈ lines, hasBreak line = false) {mark : List Char}
    (hmark : mark = ['\n'] ∨ mark = ['\r', '\n']) :
    (Edit.setBodyText actor handler (endLines mark lines)).Stores program actor handler lines :=
  (stores_setBodyText_iff hfound).mpr ⟨lines_endLines hmark h, h⟩

/-- **Joined lines are stored** exactly if there are none or the last one is not empty. -/
theorem stores_joinLines_iff (hfound : program.handler? actor handler = some found)
    (h : ∀ line ∈ lines, hasBreak line = false) :
    (Edit.setBodyText actor handler (joinLines lines)).Stores program actor handler lines ↔
      lines = [] ∨ ∃ last, lines.getLast? = some last ∧ last ≠ "" := by
  rw [stores_setBodyText_iff hfound, and_iff_left h, lines_joinLines_eq_iff h]
  cases hlast : lines.getLast? with
  | none => simp [List.getLast?_eq_none_iff.mp hlast]
  | some last =>
      have hne : lines ≠ [] := by
        rintro rfl
        cases hlast
      simp [hne]

/-! ## 3. All texts -/

/-- **A body given as a text is what stands between its line ends.** For a handler of a program and
    any text, the call succeeds exactly if every carriage return is followed by a line feed, and the
    body is then the text cut at its line feeds, with every such pair counted as one line feed and
    without an empty last piece. Any other text is refused, for the line of the first carriage
    return that no line feed follows, and the program stays as it is. So unbroken lines are stored
    by the text in which each of them ends in a line feed, or each in a carriage return and a line
    feed, and by the text to which they are joined exactly if there are none or the last one is not
    empty. -/
theorem body_texts_are_cut (hfound : program.handler? actor handler = some found) :
    (∀ text fresh,
      let outcome := (Edit.setBodyText actor handler text).apply fresh program
      (outcome.isOk = true ↔ Paired text.toList) ∧
      (Paired text.toList → ∃ changed, outcome = .ok (changed, .done) ∧
        changed.handler? actor handler = some { found with body := cutLines text }) ∧
      (¬ Paired text.toList → ∃ feeds, FirstLoneReturn text.toList feeds ∧
        outcome = .error (.brokenLine feeds) ∧
        (Edit.setBodyText actor handler text).after fresh program = program)) ∧
    ∀ lines : List String, (∀ line ∈ lines, '\n' ∉ line.toList ∧ '\r' ∉ line.toList) →
      (Edit.setBodyText actor handler (endLines ['\n'] lines)).Stores program actor handler lines ∧
      (Edit.setBodyText actor handler (endLines ['\r', '\n'] lines)).Stores
        program actor handler lines ∧
      ((Edit.setBodyText actor handler (joinLines lines)).Stores program actor handler lines ↔
        lines = [] ∨ ∃ last, lines.getLast? = some last ∧ last ≠ "") := by
  refine ⟨fun text fresh => ?_, fun lines h => ?_⟩
  · have hset : Paired text.toList → ∃ changed,
        (Edit.setBodyText actor handler text).apply fresh program = .ok (changed, .done) ∧
          changed.handler? actor handler = some { found with body := cutLines text } := by
      intro hpaired
      obtain ⟨changed, hok, hbody⟩ := setBodyText_of_paired hfound hpaired
      refine ⟨changed, ?_, hbody⟩
      rw [Edit.apply_eq_result]
      exact Except.map_eq_ok_iff.mpr ⟨changed, hok, rfl⟩
    have hrefused : ¬ Paired text.toList → ∃ feeds, FirstLoneReturn text.toList feeds ∧
        (Edit.setBodyText actor handler text).apply fresh program =
          .error (.brokenLine feeds) := by
      intro hpaired
      obtain ⟨feeds, hlone⟩ := (paired_or_exists_lone text.toList).resolve_left hpaired
      refine ⟨feeds, hlone, ?_⟩
      rw [Edit.apply_eq_result]
      exact congrArg ((·, Reply.done) <$> ·) (setBodyText_of_lone hfound hlone)
    refine ⟨⟨fun hok => ?_, fun hpaired => ?_⟩, hset, fun hpaired => ?_⟩
    · by_contra hpaired
      obtain ⟨feeds, -, herror⟩ := hrefused hpaired
      rw [herror] at hok
      cases hok
    · obtain ⟨changed, happly, -⟩ := hset hpaired
      rw [happly]
      rfl
    · obtain ⟨feeds, hlone, herror⟩ := hrefused hpaired
      exact ⟨feeds, hlone, herror, Edit.after_of_error herror⟩
  · have hunbroken : ∀ line ∈ lines, hasBreak line = false :=
      fun line hline => hasBreak_eq_false_iff.mpr (h line hline)
    exact ⟨stores_endLines hfound hunbroken (.inl rfl), stores_endLines hfound hunbroken (.inr rfl),
      stores_joinLines_iff hfound hunbroken⟩

/-- The lines of a text with both marks and an empty line inside become the body of the stage's
    second handler. -/
theorem mixed_marks_are_cut : ∃ changed,
    (Edit.setBodyText ⟨1⟩ ⟨2⟩ "a;\r\n\nb;\n").apply 0 catOnStage = .ok (changed, .done) ∧
    changed.handler? ⟨1⟩ ⟨2⟩ = some ⟨⟨2⟩, .clicked, ["a;", "", "b;"]⟩ := by
  have hfound : catOnStage.handler? ⟨1⟩ ⟨2⟩ =
      some ⟨⟨2⟩, .clicked, ["let a = 1;", ""]⟩ := rfl
  obtain ⟨hok, hset, -⟩ := (body_texts_are_cut hfound).1 "a;\r\n\nb;\n" 0
  exact hset (hok.mp rfl)

end Program

end Stagecraft
