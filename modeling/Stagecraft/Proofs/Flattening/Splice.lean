import Stagecraft.Proofs.Flattening.Tiling
import Stagecraft.Proofs.Program.Undo

/-!
# A new body is spliced into the flattening

A flattening is made anew from the whole tree. If one handler gets a new body, the new flattening is
still the old one outside that body: the lines before it and behind it are the same, and so is what
they are led back to.

* `Flattening.Spliced` says that of two flattenings;
* `Program.WellFormed.sections_updateHandlers`: a change of an actor's handlers shows in one place
  of the order of the text, and `Program.WellFormed.sections_updateHandler`: so does a change of one
  handler;
* `Program.spliced_of_sections`: what follows for the flattenings, where the entries and the lines
  behind that place are shifted by the difference of the two bodies;
* `Program.new_bodies_are_spliced` is about the two edits that replace a body.
-/

namespace Stagecraft

/-! ## 1. What splicing means -/

/-- The lines of the text: as many of its pieces as the map counts. The empty text has a piece, but
    no line. -/
def Flattening.lines (flat : Flattening) : List String :=
  (Text.pieces flat.text).take flat.map.lineCount

/-- A flattening becomes another one by putting `body` in place of the `old` lines from `start` on,
    which are those of a handler. -/
structure Flattening.Spliced (flat flat' : Flattening) (actor : ActorId) (handler : HandlerId)
    (start old : Nat) (body : List String) : Prop where
  /-- The lines before and behind are as they were. -/
  lines : flat'.lines = flat.lines.take (start - 1) ++ body ++ flat.lines.drop (start - 1 + old)
  /-- The number of lines changes by as much as the length of the body. -/
  count : flat'.map.lineCount + old = flat.map.lineCount + body.length
  /-- The entries are those of the same handlers in the same order. -/
  places : flat'.map.entries.map (fun entry => (entry.actor, entry.handler)) =
    flat.map.entries.map fun entry => (entry.actor, entry.handler)
  /-- Up to that of the handler they start where they did, and behind it they are shifted. -/
  starts : ∃ place, flat.map.entries[place]? = some ⟨start, actor, handler⟩ ∧
    (∀ index ≤ place, flat'.map.entries[index]? = flat.map.entries[index]?) ∧
    ∀ (index : Nat) entry entry', place < index → flat.map.entries[index]? = some entry →
      flat'.map.entries[index]? = some entry' →
      entry'.startLine + old = entry.startLine + body.length
  /-- Lines before the body are led back to what they were. -/
  before : ∀ line < start, flat'.map.locate line = flat.map.locate line
  /-- The lines of the body are led back to the handler. -/
  inside : ∀ k, 1 ≤ k → k ≤ body.length →
    flat'.map.locate (start + k - 1) = some ⟨actor, handler, k⟩
  /-- Lines behind the body are led back to what they were, from where they are now. -/
  behind : ∀ line, start + old ≤ line → line ≤ flat.map.lineCount →
    flat'.map.locate (line - old + body.length) = flat.map.locate line

namespace Program

variable {program changed : Program} {id : ActorId} {handler : HandlerId} {actor : Actor}

/-! ## 2. Where a change shows in the order of the text -/

theorem sections_split (before after : List Actor) (actor : Actor) :
    sections ⟨before ++ actor :: after⟩ =
      sections ⟨before⟩ ++ (actor.handlers.map (actor.id, ·) ++ sections ⟨after⟩) := by
  unfold sections
  rw [List.flatMap_append, List.flatMap_cons]

/-- **A change of an actor's handlers shows in one place**, where the part stands that it
    replaces. -/
theorem WellFormed.sections_updateHandlers (h : program.WellFormed)
    (ha : program.actor? id = some actor) {front part back : List Handler}
    (hhandlers : actor.handlers = front ++ (part ++ back)) : ∃ before after,
      program.sections = before ++ (part.map (id, ·) ++ after) ∧
      ∀ change part', change actor.handlers = front ++ (part' ++ back) →
        (program.updateHandlers id change).sections = before ++ (part'.map (id, ·) ++ after) := by
  obtain ⟨before, after, hactors, rfl⟩ := exists_eq_append_of_actor? ha
  refine ⟨sections ⟨before⟩ ++ front.map (actor.id, ·), back.map (actor.id, ·) ++ sections ⟨after⟩,
    ?_, fun change part' hchange => ?_⟩
  · have hsections : program.sections = sections ⟨before ++ actor :: after⟩ := by rw [← hactors]
    rw [hsections, sections_split, hhandlers]
    simp
  · unfold Program.updateHandlers
    rw [h.updateActor_eq hactors, sections_split, hchange]
    simp

/-- **A change of a handler shows in one place**, which is the handler's. -/
theorem WellFormed.sections_updateHandler (h : program.WellFormed) {found : Handler}
    (hfound : program.handler? id handler = some found) : ∃ before after,
      program.sections = before ++ (id, found) :: after ∧
      ∀ change, (program.updateHandler id handler change).sections =
        before ++ (id, change found) :: after := by
  obtain ⟨actor, ha, hh⟩ := Option.bind_eq_some_iff.mp hfound
  obtain ⟨front, back, hhandlers, rfl⟩ := exists_eq_append_of_find? hh
  have hpart : actor.handlers = front ++ ([found] ++ back) := hhandlers
  have hnodup := h.nodup_handlers (mem_of_actor? ha)
  obtain ⟨before, after, hs, hchanged⟩ := h.sections_updateHandlers ha hpart
  refine ⟨before, after, hs, fun change => hchanged _ [change found] ?_⟩
  rw [hhandlers] at hnodup ⊢
  exact map_update_split change hnodup

/-! ## 3. What follows for the flattenings -/

/-- The lines of the text are those of the bodies. -/
theorem WellFormed.lines_flatten (h : program.WellFormed) :
    program.flatten.lines = program.bodyLines := by
  unfold Flattening.lines
  show (Text.pieces (Text.joinLines program.bodyLines)).take program.bodyLines.length = _
  by_cases hnil : program.bodyLines = []
  · rw [hnil]
    rfl
  · rw [Text.pieces_joinLines hnil h.bodyLines_unbroken, List.take_length]

/-- **Entries that follow different lines** keep their distance. -/
theorem startLine_shift : ∀ {line line' : Nat} {sections : List (ActorId × Handler)}
    {index : Nat} {entry entry' : MapEntry},
    (entriesFrom line sections)[index]? = some entry →
    (entriesFrom line' sections)[index]? = some entry' →
    entry'.startLine + line = entry.startLine + line'
  | _, _, [], _, _, _, h, _ => by
      rw [entriesFrom, List.getElem?_nil] at h
      cases h
  | line, line', (_, _) :: _, 0, _, _, h, h' => by
      cases h
      cases h'
      exact Nat.add_comm line' line
  | line, line', (_, handler) :: _, index + 1, _, _, h, h' => by
      have hshift : _ + (line + handler.body.length) = _ + (line' + handler.body.length) :=
        startLine_shift h h'
      omega

section Splicing

variable {owner : ActorId} {old new : Handler} {before after : List (ActorId × Handler)}

theorem entry_before (hs : program.sections = before ++ (owner, old) :: after) {index : Nat}
    (hindex : index < before.length) :
    program.flatten.map.entries[index]? = (entriesFrom 1 before)[index]? := by
  rw [entries_flatten hs, List.getElem?_append_left (by rwa [length_entriesFrom])]

theorem entry_behind (hs : program.sections = before ++ (owner, old) :: after) (index : Nat) :
    program.flatten.map.entries[before.length + index + 1]? =
      (entriesFrom ((placedIn before).length + 1 + old.body.length) after)[index]? := by
  have hplace : before.length + index + 1 - before.length = index + 1 := by omega
  rw [entries_flatten hs, List.getElem?_append_right (by rw [length_entriesFrom]; omega),
    length_entriesFrom, hplace, List.getElem?_cons_succ]

theorem locate_behind (hs : program.sections = before ++ (owner, old) :: after) {line : Nat}
    (hline : (placedIn before).length + old.body.length ≤ line) :
    program.flatten.map.locate (line + 1) =
      (placedIn after)[line - (placedIn before).length - old.body.length]?.map Prod.fst := by
  rw [locate_flatten, placedLines, hs, placedIn_append, placedIn_cons,
    List.getElem?_append_right (by omega), List.getElem?_append_right]
  · rw [Handler.length_placed]
  · rw [Handler.length_placed]
    omega

theorem locate_before (hs : program.sections = before ++ (owner, old) :: after) {line : Nat}
    (hline : line < (placedIn before).length) :
    program.flatten.map.locate (line + 1) = (placedIn before)[line]?.map Prod.fst := by
  rw [locate_flatten, placedLines, hs, placedIn_append, List.getElem?_append_left hline]

/-- **Two trees that differ in one body** have flattenings that differ in its lines. -/
theorem spliced_of_sections (h : program.WellFormed) (h' : changed.WellFormed)
    (hs : program.sections = before ++ (owner, old) :: after)
    (hs' : changed.sections = before ++ (owner, new) :: after) (hid : new.id = old.id) :
    program.flatten.Spliced changed.flatten owner old.id ((placedIn before).length + 1)
      old.body.length new.body where
  lines := by
    rw [h.lines_flatten, h'.lines_flatten, bodyLines_split hs, bodyLines_split hs',
      Nat.add_sub_cancel, List.take_left' (List.length_map _), ← List.append_assoc,
      ← List.append_assoc, List.drop_left' (by rw [List.length_append, List.length_map])]
  count := by
    rw [lineCount_flatten hs, lineCount_flatten hs']
    omega
  places := by
    show (entriesFrom 1 changed.sections).map _ = (entriesFrom 1 program.sections).map _
    rw [map_places_entriesFrom, map_places_entriesFrom, hs, hs', List.map_append,
      List.map_append, List.map_cons, List.map_cons]
    dsimp only
    rw [hid]
  starts := by
    refine ⟨before.length, getElem?_entries_flatten hs, fun index hindex => ?_,
      fun index entry entry' hindex hentry hentry' => ?_⟩
    · rcases Nat.lt_or_eq_of_le hindex with hlt | rfl
      · rw [entry_before hs hlt, entry_before hs' hlt]
      · rw [getElem?_entries_flatten hs, getElem?_entries_flatten hs', hid]
    · obtain ⟨behind, rfl⟩ := Nat.exists_eq_add_of_lt hindex
      rw [entry_behind hs] at hentry
      rw [entry_behind hs'] at hentry'
      have hshift := startLine_shift hentry hentry'
      omega
  before line hline := by
    cases line with
    | zero => rw [locate_flatten_zero, locate_flatten_zero]
    | succ line =>
        have hlt : line < (placedIn before).length := Nat.lt_of_succ_lt_succ hline
        rw [locate_before hs hlt, locate_before hs' hlt]
  inside k hk hlen := by
    obtain ⟨index, rfl⟩ := Nat.exists_eq_add_of_le' hk
    have hsum : (placedIn before).length + 1 + (index + 1) - 1 =
        (placedIn before).length + index + 1 := by omega
    rw [hsum, locate_flatten, getElem?_placedLines hs' (Nat.lt_of_succ_le hlen), hid]
  behind line hline _ := by
    obtain ⟨index, rfl⟩ : ∃ index, line = index + 1 :=
      Nat.exists_eq_add_of_le' (by omega)
    have hsum : index + 1 - old.body.length + new.body.length =
        index - old.body.length + new.body.length + 1 := by omega
    rw [hsum, locate_behind hs (by omega), locate_behind hs' (by omega)]
    congr 2
    omega

end Splicing

/-! ## 4. The edits -/

/-- An edit has put `lines` into the body of a handler, and into the flattening. -/
def PutsBody (program changed : Program) (actor : ActorId) (handler : HandlerId)
    (lines : List String) : Prop :=
  ∃ found start, program.handler? actor handler = some found ∧
    changed.handler? actor handler = some { found with body := lines } ∧
    program.flatten.map.startLine? handler = some start ∧
    program.flatten.Spliced changed.flatten actor handler start found.body.length lines

theorem WellFormed.setBody_puts (h : program.WellFormed) {lines : List String}
    (hok : program.setBody id handler lines = .ok changed) :
    program.PutsBody changed id handler lines := by
  have h' := h.setBody hok
  obtain ⟨hthere, -, rfl⟩ := setBody_eq_ok_iff.mp hok
  obtain ⟨found, hfound⟩ := handler?_of_missing? hthere
  obtain ⟨before, after, hs, hchanged⟩ := h.sections_updateHandler hfound
  obtain ⟨actor, ha, hh⟩ := Option.bind_eq_some_iff.mp hfound
  obtain ⟨_, _, -, rfl⟩ := exists_eq_append_of_find? hh
  refine ⟨found, _, hfound, ?_, startLine?_flatten hs (h.not_mem_before hs),
    spliced_of_sections h h' hs (hchanged _) rfl⟩
  refine Option.bind_eq_some_iff.mpr ⟨_, actor?_updateHandlers ha _, ?_⟩
  have hkeep : ∀ old : Handler, { old with body := lines }.id = old.id := fun _ => rfl
  have hh' : actor.handlers.find? (·.id = found.id) = some found := hh
  unfold Actor.handler?
  rw [List.find?_map]
  simp only [Function.comp_def, key_update hkeep found.id, hh', Option.map_some, if_true]

/-- **A new body is spliced into the flattening**, and nothing else in it changes. In a program that
    passes the check, the lines of the text before the handler and behind it are as they were, with
    the new body between them. The entries are those of the same handlers in the same order; they
    start where they did up to that of the handler, and behind it they are shifted by the difference
    of the bodies. The lines before and behind are led back to what they were, from where they are
    now, and the lines of the new body to the handler. -/
theorem new_bodies_are_spliced (hvalid : program.validate = .ok ()) :
    (∀ actor handler lines changed, program.setBody actor handler lines = .ok changed →
      program.PutsBody changed actor handler lines) ∧
    ∀ actor handler text changed, program.setBodyText actor handler text = .ok changed →
      program.PutsBody changed actor handler (Text.lines text) :=
  ⟨fun _ _ _ _ hok => (validate_eq_ok_iff.mp hvalid).setBody_puts hok,
    fun _ _ _ _ hok => (validate_eq_ok_iff.mp hvalid).setBody_puts hok⟩

/-- Two lines for the first handler of the stage, which had none, and shares its start with the one
    behind it: the cat's line moves from the third to the fifth. -/
theorem cat_line_behind_new_body : ∃ changed, catOnStage.validate = .ok () ∧
    catOnStage.setBodyText ⟨1⟩ ⟨1⟩ "let b = 2;\r\n\n" = .ok changed ∧
    changed.flatten.map.locate 5 = catOnStage.flatten.map.locate 3 := by
  refine ⟨catOnStage.updateHandler ⟨1⟩ ⟨1⟩ fun h => { h with body := ["let b = 2;", ""] },
    validate_catOnStage, rfl, ?_⟩
  obtain ⟨found, start, hfound, -, hstart, hspliced⟩ :=
    (new_bodies_are_spliced validate_catOnStage).2 ⟨1⟩ ⟨1⟩ "let b = 2;\r\n\n" _ rfl
  cases hfound
  have h1 : catOnStage.flatten.map.startLine? ⟨1⟩ = some 1 := by decide
  obtain rfl : 1 = start := Option.some.inj (h1.symm.trans hstart)
  exact hspliced.behind 3 (by decide) (by decide)

end Program

end Stagecraft
