import Mathlib.Data.List.Nodup
import Stagecraft.Proofs.Flattening.Places
import Stagecraft.Proofs.Program.Validation
import Stagecraft.Proofs.Text.Pieces

/-!
# Flattening and locating are inverse to each other

A program that passes the check is flattened to a text whose lines are the lines of its bodies, and
`SourceMap.locate` leads every line of the text back to the one line of a body that it is:

* `Program.isSome_locate_flatten_iff`: exactly the lines of the text are located;
* `Program.WellFormed.body_of_locate`: what is located is that line of the text;
* `Program.WellFormed.locate_eq_some_iff`: each line of a body is located from one line of the
  text, counted from the start of its handler;
* `Program.flatten_locate_inverse` puts the three together.
-/

namespace Stagecraft

namespace Program

variable {program : Program} {actor : Actor} {handler : Handler}

/-! ## 1. From the text to the tree -/

theorem WellFormed.bodyLines_unbroken (h : program.WellFormed) :
    ∀ line ∈ program.bodyLines, Text.hasBreak line = false := by
  intro line hline
  obtain ⟨⟨id, handler⟩, hs, hbody⟩ := List.mem_flatMap.mp hline
  obtain ⟨actor, ha, -, hh⟩ := mem_sections.mp hs
  exact h.lines_unbroken actor ha handler hh line hbody

/-- The listed lines are the pieces of the text. -/
theorem WellFormed.getElem?_pieces (h : program.WellFormed) {index : Nat} {found : Located}
    {words : String} (hplaced : program.placedLines[index]? = some (found, words)) :
    (Text.pieces program.flatten.text)[index]? = some words := by
  refine Text.getElem?_pieces_joinLines h.bodyLines_unbroken ?_
  rw [← map_snd_placedLines, List.getElem?_map, hplaced]
  rfl

/-- **Exactly the lines of the text are located.** -/
theorem isSome_locate_flatten_iff (program : Program) (line : Nat) :
    (program.flatten.map.locate line).isSome = true ↔
      1 ≤ line ∧ line ≤ program.flatten.map.lineCount := by
  cases line with
  | zero =>
      rw [locate_flatten_zero]
      simp
  | succ index =>
      rw [locate_flatten, Option.isSome_map, isSome_getElem?, ← length_placedLines]
      exact ⟨fun h => ⟨Nat.le_add_left 1 index, h⟩, fun h => h.2⟩

/-- **What is located is the line of a body that stands there in the text.** -/
theorem WellFormed.body_of_locate (h : program.WellFormed) {line : Nat} {found : Located}
    (hl : program.flatten.map.locate line = some found) :
    ∃ actor ∈ program.actors, ∃ handler ∈ actor.handlers,
      found.actor = actor.id ∧ found.handler = handler.id ∧ 1 ≤ found.lineWithin ∧
        ∃ words, handler.body[found.lineWithin - 1]? = some words ∧
          (Text.pieces program.flatten.text)[line - 1]? = some words := by
  obtain ⟨index, words, rfl, hplaced⟩ := getElem?_of_locate hl
  obtain ⟨actor, ha, handler, hh, hactor, hhandler, hk, hbody⟩ :=
    mem_placedLines.mp (List.mem_of_getElem? hplaced)
  exact ⟨actor, ha, handler, hh, hactor, hhandler, hk, words, hbody, h.getElem?_pieces hplaced⟩

/-! ## 2. From the tree to the text -/

/-- **A line of a body is located from one line of the text.** -/
theorem WellFormed.locate_eq_some_iff (h : program.WellFormed) (ha : actor ∈ program.actors)
    (hh : handler ∈ actor.handlers) :
    ∃ start, program.flatten.map.startLine? handler.id = some start ∧
      ∀ k, 1 ≤ k → k ≤ handler.body.length → ∀ line,
        program.flatten.map.locate line = some ⟨actor.id, handler.id, k⟩ ↔
          line = start + k - 1 := by
  obtain ⟨before, after, hs, hnew⟩ := h.exists_sections_eq ha hh
  refine ⟨_, startLine?_flatten hs hnew, fun k hk hlen line => ?_⟩
  obtain ⟨index, rfl⟩ := Nat.exists_eq_add_of_le' hk
  have hlt : index < handler.body.length := by omega
  have hplace := getElem?_placedLines hs hlt
  constructor
  · intro hl
    obtain ⟨other, words, rfl, hplaced⟩ := getElem?_of_locate hl
    have hother : (program.placedLines.map Prod.fst)[other]? =
        some ⟨actor.id, handler.id, index + 1⟩ := by
      rw [List.getElem?_map, hplaced]
      rfl
    rw [← List.getElem?_map] at hplace
    -- no place is listed twice
    have heq := (List.getElem?_inj (List.getElem?_eq_some_iff.mp hother).1 h.nodup_places).mp
      (hother.trans hplace.symm)
    omega
  · rintro rfl
    have hsum : (placedIn before).length + 1 + (index + 1) - 1 =
        (placedIn before).length + index + 1 := by omega
    rw [hsum, locate_flatten]
    exact hplace

/-- Handlers of a well-formed tree with the same id are the same, and so are their actors' ids. -/
theorem WellFormed.handler_inj (h : program.WellFormed) {actor' : Actor} {handler' : Handler}
    (ha : actor ∈ program.actors) (hh : handler ∈ actor.handlers)
    (ha' : actor' ∈ program.actors) (hh' : handler' ∈ actor'.handlers)
    (hid : handler.id = handler'.id) : actor.id = actor'.id ∧ handler = handler' := by
  have hnodup := h.handlers_distinct
  rw [← map_id_sections] at hnodup
  have heq := List.inj_on_of_nodup_map hnodup (mem_sections.mpr ⟨actor, ha, rfl, hh⟩)
    (mem_sections.mpr ⟨actor', ha', rfl, hh'⟩) hid
  exact ⟨congrArg Prod.fst heq, congrArg Prod.snd heq⟩

/-- No line is led back to a handler without lines. -/
theorem WellFormed.locate_ne_of_body_eq_nil (h : program.WellFormed)
    (ha : actor ∈ program.actors) (hh : handler ∈ actor.handlers) (hempty : handler.body = [])
    {line : Nat} {found : Located} (hl : program.flatten.map.locate line = some found) :
    found.handler ≠ handler.id := by
  intro hid
  obtain ⟨actor', ha', handler', hh', -, hid', -, words, hbody, -⟩ := h.body_of_locate hl
  obtain ⟨-, rfl⟩ := h.handler_inj ha hh ha' hh' (hid.symm.trans hid')
  rw [hempty] at hbody
  cases hbody

/-! ## 3. Both ways -/

/-- **Flattening and locating are inverse to each other.** In a program that passes the check, the
    lines of the text are the lines that are located; each is the line of a body that it is led
    back to; each line of a body is led back to from one line, which is counted from the start of
    its handler; and no line is led back to a handler without lines. -/
theorem flatten_locate_inverse (hvalid : program.validate = .ok ()) :
    (∀ line, (program.flatten.map.locate line).isSome = true ↔
      1 ≤ line ∧ line ≤ program.flatten.map.lineCount) ∧
    (∀ line found, program.flatten.map.locate line = some found →
      ∃ actor ∈ program.actors, ∃ handler ∈ actor.handlers,
        found.actor = actor.id ∧ found.handler = handler.id ∧
        1 ≤ found.lineWithin ∧ found.lineWithin ≤ handler.body.length ∧
        ∃ words, handler.body[found.lineWithin - 1]? = some words ∧
          (Text.pieces program.flatten.text)[line - 1]? = some words) ∧
    (∀ actor ∈ program.actors, ∀ handler ∈ actor.handlers,
      ∃ start, program.flatten.map.startLine? handler.id = some start ∧
        ∀ k, 1 ≤ k → k ≤ handler.body.length → ∀ line,
          program.flatten.map.locate line = some ⟨actor.id, handler.id, k⟩ ↔
            line = start + k - 1) ∧
    (∀ actor ∈ program.actors, ∀ handler ∈ actor.handlers, handler.body = [] →
      ∀ line found, program.flatten.map.locate line = some found →
        found.handler ≠ handler.id) := by
  have h := validate_eq_ok_iff.mp hvalid
  refine ⟨isSome_locate_flatten_iff program, fun line found hl => ?_, fun actor ha handler hh =>
    h.locate_eq_some_iff ha hh, fun actor ha handler hh hempty line found hl =>
    h.locate_ne_of_body_eq_nil ha hh hempty hl⟩
  obtain ⟨actor, ha, handler, hh, hactor, hhandler, hk, words, hbody, hpiece⟩ :=
    h.body_of_locate hl
  have hlt := (List.getElem?_eq_some_iff.mp hbody).1
  exact ⟨actor, ha, handler, hh, hactor, hhandler, hk, by omega, words, hbody, hpiece⟩

/-- The cat's only line is the third of the text, behind two handlers without lines. -/
theorem locate_catOnStage : catOnStage.validate = .ok () ∧
    catOnStage.flatten.map.locate 3 = some ⟨⟨2⟩, ⟨4⟩, 1⟩ := by
  refine ⟨validate_catOnStage, ?_⟩
  obtain ⟨start, hstart, hline⟩ := (flatten_locate_inverse validate_catOnStage).2.2.1
    ⟨⟨2⟩, .sprite, "Cat", [⟨⟨3⟩, .startAsClone, []⟩, ⟨⟨4⟩, .greenFlag, ["print(a);"]⟩,
      ⟨⟨5⟩, .clicked, []⟩]⟩ (by simp [catOnStage]) ⟨⟨4⟩, .greenFlag, ["print(a);"]⟩ (by simp)
  have h3 : catOnStage.flatten.map.startLine? ⟨4⟩ = some 3 := by decide
  rw [h3] at hstart
  cases hstart
  exact (hline 1 (Nat.le_refl 1) (Nat.le_refl 1) 3).mpr rfl

end Program

end Stagecraft
