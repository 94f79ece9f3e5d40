import Mathlib.Algebra.Ring.Nat
import Stagecraft.Proofs.Flattening.Inverse
import Stagecraft.Proofs.SourceMap.Diagnosis
import Stagecraft.Proofs.SourceMap.Ranges

/-!
# The runs of a flattening tile its text

`Flattening.Tiles` says of a flattening what its source map promises: one entry for each handler,
runs that follow each other without gap or overlap from the first line to the last, and in each run
the lines of the handler's body.

* `Program.entries_flatten` and `Program.lineRange?_flatten`: the entry and the run of a handler,
  told by the handlers before it;
* `Program.WellFormed.run_of_text`: what stands in the text there;
* `Program.startLine_succ`: from one start to the next it is as many lines as the body has;
* `Program.flatten_tiles` puts them together.
-/

namespace Stagecraft

/-! ## 1. What tiling means -/

/-- The runs of a flattening tile its text, where `handlers` are those that it is made of, in their
    order and each with its actor. -/
structure Flattening.Tiles (flat : Flattening) (handlers : List (ActorId × Handler)) : Prop where
  /-- Every handler has one entry. -/
  entries : flat.map.entries.map (fun entry => (entry.actor, entry.handler)) =
    handlers.map fun (actor, handler) => (actor, handler.id)
  /-- In the run of an entry stand the lines of the handler's body. -/
  bodies : ∀ index < flat.map.entries.length, ∃ actor handler start stop,
    handlers[index]? = some (actor, handler) ∧ flat.map.lineRange? index = some (start, stop) ∧
      1 ≤ start ∧ stop = start + handler.body.length ∧
      ((Text.pieces flat.text).drop (start - 1)).take (stop - start) = handler.body
  /-- The first run starts at the first line. -/
  first : ∀ start stop, flat.map.lineRange? 0 = some (start, stop) → start = 1
  /-- A run starts where the one before it ends. -/
  following : ∀ index start stop start' stop', flat.map.lineRange? index = some (start, stop) →
    flat.map.lineRange? (index + 1) = some (start', stop') → start' = stop
  /-- The last run ends with the text. -/
  last : ∀ index start stop, index + 1 = flat.map.entries.length →
    flat.map.lineRange? index = some (start, stop) → stop = flat.map.lineCount + 1
  /-- The text has the lines of all bodies. -/
  count : flat.map.lineCount = (handlers.map fun (_, handler) => handler.body.length).sum
  /-- Two entries start at the same line, one right behind the other, if the first is that of a
      handler without lines. -/
  level : ∀ (index : Nat) entry next actor handler, flat.map.entries[index]? = some entry →
    flat.map.entries[index + 1]? = some next → handlers[index]? = some (actor, handler) →
    (entry.startLine = next.startLine ↔ handler.body = [])
  /-- Behind a handler with lines all entries start later. -/
  rising : ∀ (i j : Nat) entry later actor handler, i < j → flat.map.entries[i]? = some entry →
    flat.map.entries[j]? = some later → handlers[i]? = some (actor, handler) →
    handler.body ≠ [] → entry.startLine < later.startLine

/-- What stands before and behind an item of a list. -/
theorem exists_split_of_getElem? {α : Type} {items : List α} {index : Nat} {x : α}
    (h : items[index]? = some x) :
    ∃ before after, items = before ++ x :: after ∧ before.length = index := by
  obtain ⟨hlt, rfl⟩ := List.getElem?_eq_some_iff.mp h
  refine ⟨items.take index, items.drop (index + 1), ?_,
    List.length_take_of_le (Nat.le_of_lt hlt)⟩
  rw [← List.drop_eq_getElem_cons hlt, List.take_append_drop]

namespace Program

variable {program : Program} {actor : ActorId} {handler : Handler}
  {before after : List (ActorId × Handler)}

/-! ## 2. Entries and runs -/

theorem map_places_entriesFrom : ∀ (line : Nat) (sections : List (ActorId × Handler)),
    (entriesFrom line sections).map (fun entry => (entry.actor, entry.handler)) =
      sections.map fun (actor, handler) => (actor, handler.id)
  | _, [] => rfl
  | line, (actor, handler) :: sections =>
      congrArg ((actor, handler.id) :: ·)
        (map_places_entriesFrom (line + handler.body.length) sections)

/-- **The entry of a handler** among those before it and those behind it. -/
theorem entries_flatten (hs : program.sections = before ++ (actor, handler) :: after) :
    program.flatten.map.entries = entriesFrom 1 before ++
      ⟨(placedIn before).length + 1, actor, handler.id⟩ ::
        entriesFrom ((placedIn before).length + 1 + handler.body.length) after := by
  show entriesFrom 1 program.sections = _
  rw [hs, entriesFrom_append, entriesFrom, Nat.add_comm 1]

theorem getElem?_entries_flatten (hs : program.sections = before ++ (actor, handler) :: after) :
    program.flatten.map.entries[before.length]? =
      some ⟨(placedIn before).length + 1, actor, handler.id⟩ := by
  rw [entries_flatten hs, List.getElem?_append_right (by rw [length_entriesFrom]),
    length_entriesFrom, Nat.sub_self, List.getElem?_cons_zero]

theorem lineCount_flatten (hs : program.sections = before ++ (actor, handler) :: after) :
    program.flatten.map.lineCount =
      (placedIn before).length + (handler.body.length + (placedIn after).length) := by
  rw [← length_placedLines, placedLines, hs, placedIn_append, placedIn_cons, List.length_append,
    List.length_append, Handler.length_placed]

/-- **The run of a handler** starts behind the lines of those before it and is as long as its
    body. -/
theorem lineRange?_flatten (hs : program.sections = before ++ (actor, handler) :: after) :
    program.flatten.map.lineRange? before.length = some ((placedIn before).length + 1,
      (placedIn before).length + 1 + handler.body.length) := by
  rw [SourceMap.lineRange?_eq, getElem?_entries_flatten hs, Option.map_some]
  -- the run ends with the text if no handler follows, and else where the next one starts
  cases after with
  | nil =>
      have hnone : program.flatten.map.entries[before.length + 1]? = none := by
        refine List.getElem?_eq_none ?_
        rw [entries_flatten hs, List.length_append, length_entriesFrom]
        exact Nat.le_refl _
      rw [hnone, Option.map_none, Option.getD_none, lineCount_flatten hs, placedIn_nil,
        List.length_nil, Nat.add_zero handler.body.length, Nat.add_right_comm]
  | cons next rest =>
      obtain ⟨actor', handler'⟩ := next
      have hnext := getElem?_entries_flatten
        (hs.trans (List.append_cons before (actor, handler) ((actor', handler') :: rest)))
      rw [List.length_append, List.length_singleton] at hnext
      rw [hnext, Option.map_some, Option.getD_some, placedIn_append, placedIn_cons, placedIn_nil,
        List.append_nil, List.length_append, Handler.length_placed, Nat.add_right_comm]

/-- The lines of a handler among those before it and those behind it. -/
theorem bodyLines_split (hs : program.sections = before ++ (actor, handler) :: after) :
    program.bodyLines = (placedIn before).map Prod.snd ++
      (handler.body ++ (placedIn after).map Prod.snd) := by
  rw [← map_snd_placedLines, placedLines, hs, placedIn_append, placedIn_cons, List.map_append,
    List.map_append, Handler.map_snd_placed]

/-- **In the run of a handler stand the lines of its body.** -/
theorem WellFormed.run_of_text (h : program.WellFormed)
    (hs : program.sections = before ++ (actor, handler) :: after) :
    ((Text.pieces program.flatten.text).drop (placedIn before).length).take handler.body.length =
      handler.body := by
  have hsplit := bodyLines_split hs
  cases hbody : handler.body with
  | nil => rfl
  | cons line more =>
      -- the text is not empty, so its pieces are the lines of the bodies
      have hne : program.bodyLines ≠ [] := by
        rw [hsplit, hbody]
        simp
      have hpieces : Text.pieces program.flatten.text = program.bodyLines :=
        Text.pieces_joinLines hne h.bodyLines_unbroken
      rw [hpieces, hsplit, hbody, List.drop_left' (List.length_map _), List.take_left]

/-! ## 3. From one start to the next -/

variable {index : Nat} {entry next later : MapEntry}

/-- **From one start to the next** it is as many lines as the body has. -/
theorem startLine_succ (hentry : program.flatten.map.entries[index]? = some entry)
    (hnext : program.flatten.map.entries[index + 1]? = some next)
    (hhandler : program.sections[index]? = some (actor, handler)) :
    next.startLine = entry.startLine + handler.body.length := by
  obtain ⟨before, after, hs, rfl⟩ := exists_split_of_getElem? hhandler
  have hrange := lineRange?_flatten hs
  rw [SourceMap.lineRange?_eq, hentry, hnext] at hrange
  obtain ⟨hstart, hstop⟩ := Prod.mk.inj (Option.some.inj hrange)
  rw [hstart]
  exact hstop

theorem startLine_lt {i j : Nat} (hij : i < j)
    (hentry : program.flatten.map.entries[i]? = some entry)
    (hlater : program.flatten.map.entries[j]? = some later)
    (hhandler : program.sections[i]? = some (actor, handler)) (hbody : handler.body ≠ []) :
    entry.startLine < later.startLine := by
  have hnext := List.getElem?_eq_getElem
    (Nat.lt_of_le_of_lt hij (List.getElem?_eq_some_iff.mp hlater).1)
  have hstep := startLine_succ hentry hnext hhandler
  have hle := program.sorted_sourceMap.le hij hnext hlater
  have hpos : 0 < handler.body.length := List.length_pos_iff.mpr hbody
  omega

/-! ## 4. The tiling -/

theorem length_entries_flatten (program : Program) :
    program.flatten.map.entries.length = program.sections.length :=
  length_entriesFrom 1 program.sections

/-- An entry is that of a handler among others. -/
theorem exists_split_of_lt_entries {index : Nat}
    (h : index < program.flatten.map.entries.length) :
    ∃ before actor handler after, program.sections = before ++ (actor, handler) :: after ∧
      before.length = index := by
  rw [length_entries_flatten] at h
  obtain ⟨before, after, hs, hindex⟩ := exists_split_of_getElem? (List.getElem?_eq_getElem h)
  exact ⟨before, _, _, after, hs, hindex⟩

theorem start_of_first_run {start stop : Nat}
    (h : program.flatten.map.lineRange? 0 = some (start, stop)) : start = 1 := by
  have hlt : 0 < program.flatten.map.entries.length := by
    rw [SourceMap.lineRange?_eq] at h
    obtain ⟨_, hentry, -⟩ := Option.map_eq_some_iff.mp h
    exact (List.getElem?_eq_some_iff.mp hentry).1
  obtain ⟨before, actor, handler, after, hs, hnil⟩ := exists_split_of_lt_entries hlt
  have hrange := lineRange?_flatten hs
  obtain rfl := List.eq_nil_of_length_eq_zero hnil
  rw [List.length_nil, h] at hrange
  exact congrArg Prod.fst (Option.some.inj hrange)

theorem WellFormed.exists_run (h : program.WellFormed)
    (hindex : index < program.flatten.map.entries.length) :
    ∃ actor handler start stop, program.sections[index]? = some (actor, handler) ∧
      program.flatten.map.lineRange? index = some (start, stop) ∧
      1 ≤ start ∧ stop = start + handler.body.length ∧
      ((Text.pieces program.flatten.text).drop (start - 1)).take (stop - start) = handler.body := by
  obtain ⟨before, actor, handler, after, hs, rfl⟩ := exists_split_of_lt_entries hindex
  refine ⟨actor, handler, _, _, ?_, lineRange?_flatten hs, Nat.le_add_left 1 _, rfl, ?_⟩
  · rw [hs, List.getElem?_append_right (Nat.le_refl _), Nat.sub_self, List.getElem?_cons_zero]
  · rw [Nat.add_sub_cancel, Nat.add_sub_cancel_left]
    exact h.run_of_text hs

/-- **The source map of a flattening tiles the text.** In a program that passes the check there is
    one entry for each handler, actor by actor and handler by handler. In the run of each entry
    stand the lines of that handler's body; the first run starts at the first line, each run ends
    where the next begins, and the last with the text, which has as many lines as all bodies
    together. An entry starts at the same line as the one before it exactly if that is the entry of
    a handler without lines, and behind handlers with lines the starts only grow. -/
theorem flatten_tiles (hvalid : program.validate = .ok ()) :
    program.flatten.Tiles
      (program.actors.flatMap fun actor => actor.handlers.map (actor.id, ·)) where
  entries := map_places_entriesFrom 1 program.sections
  bodies _ hindex := (validate_eq_ok_iff.mp hvalid).exists_run hindex
  first _ _ hrange := start_of_first_run hrange
  following _ _ _ _ _ hrange hnext := SourceMap.start_eq_stop hrange hnext
  last _ _ _ hindex hrange := SourceMap.stop_eq_of_last hindex hrange
  count := List.length_flatMap
  level _ entry next _ handler hentry hnext hhandler := by
    rw [startLine_succ hentry hnext hhandler, ← List.length_eq_zero_iff]
    omega
  rising _ _ _ _ _ _ hij hentry hlater hhandler hbody :=
    startLine_lt hij hentry hlater hhandler hbody

/-- The cat's only line stands in the run of the fourth entry. -/
theorem run_of_cat_line : catOnStage.validate = .ok () ∧
    catOnStage.flatten.map.lineRange? 3 = some (3, 4) ∧
    ((Text.pieces catOnStage.flatten.text).drop 2).take 1 = ["print(a);"] := by
  have hrange : catOnStage.flatten.map.lineRange? 3 = some (3, 4) := by decide
  refine ⟨validate_catOnStage, hrange, ?_⟩
  obtain ⟨actor, handler, start, stop, hhandler, hrange', -, -, hbody⟩ :=
    (flatten_tiles validate_catOnStage).bodies 3 (by decide)
  rw [hrange] at hrange'
  cases hrange'
  cases hhandler
  exact hbody

end Program

end Stagecraft
