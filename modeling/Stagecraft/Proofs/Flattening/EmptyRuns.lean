import Stagecraft.Proofs.Flattening.Splice

/-!
# Edits that add or remove no line

A handler without lines has an entry in the source map and nothing in the text. To put such handlers
in or to take them out changes the text in nothing and shifts entries only; what each line is led
back to stays the same, since a line that is searched for is never found in an empty run.

* `Flattening.AddsEmptyRuns` says that of two flattenings;
* `Program.flatten_eq_of_sections`, `Program.flatten_eq_of_handler`: what a flattening depends on;
* `Program.addsEmptyRuns_of_sections`: handlers without lines, anywhere in the order of the text;
* one lemma for each operation, and `Program.line_free_edits_keep_text` over all of them.
-/

namespace Stagecraft

/-! ## 1. What empty runs are -/

/-- A flattening has, beside the entries of another one, those of some handlers of an actor, in one
    place and with empty runs. -/
structure Flattening.AddsEmptyRuns (less more : Flattening) (actor : ActorId)
    (handlers : List HandlerId) : Prop where
  text : more.text = less.text
  count : more.map.lineCount = less.map.lineCount
  /-- Every line is led back to the same. -/
  located : ∀ line, more.map.locate line = less.map.locate line
  entries : ∃ front back start, less.map.entries = front ++ back ∧
    more.map.entries = front ++ (handlers.map (⟨start, actor, ·⟩) ++ back) ∧
    ∀ index, front.length ≤ index → index < front.length + handlers.length →
      more.map.lineRange? index = some (start, start)

namespace Program

variable {program changed : Program} {id owner fresh previous : ActorId} {handler : HandlerId}
  {actor : Actor} {name : String} {handlers : List Handler}
  {before after : List (ActorId × Handler)}

/-! ## 2. What a flattening depends on -/

/-- **A flattening is made of the handlers** in the order of the text, each with its actor's id. -/
theorem flatten_eq_of_sections (h : changed.sections = program.sections) :
    changed.flatten = program.flatten := by
  unfold flatten sourceMap bodyLines
  rw [h]

/-- Of a handler it takes the id and the body. -/
theorem flatten_eq_of_handler {old new : Handler}
    (hs : program.sections = before ++ (owner, old) :: after)
    (hs' : changed.sections = before ++ (owner, new) :: after) (hid : new.id = old.id)
    (hbody : new.body = old.body) : changed.flatten = program.flatten := by
  have hlines : changed.bodyLines = program.bodyLines := by
    rw [bodyLines_split hs, bodyLines_split hs', hbody]
  have hentries : entriesFrom 1 changed.sections = entriesFrom 1 program.sections := by
    rw [hs, hs', entriesFrom_append, entriesFrom_append, entriesFrom, entriesFrom, hid, hbody]
  unfold flatten sourceMap
  rw [hlines, hentries]

theorem placedIn_eq_nil (hempty : ∀ handler ∈ handlers, handler.body = []) :
    placedIn (handlers.map (owner, ·)) = [] := by
  unfold placedIn
  refine List.flatMap_eq_nil_iff.mpr fun ⟨_, handler⟩ hmem => List.eq_nil_of_length_eq_zero ?_
  obtain ⟨_, hhandler, heq⟩ := List.mem_map.mp hmem
  cases heq
  rw [Handler.length_placed, hempty handler hhandler, List.length_nil]

theorem entriesFrom_of_empty : ∀ {handlers : List Handler} (line : Nat),
    (∀ handler ∈ handlers, handler.body = []) →
    entriesFrom line (handlers.map (owner, ·)) =
      (handlers.map Handler.id).map (⟨line, owner, ·⟩)
  | [], _, _ => rfl
  | handler :: handlers, line, hempty => by
      obtain ⟨hhead, htail⟩ := List.forall_mem_cons.mp hempty
      rw [List.map_cons, List.map_cons, List.map_cons, entriesFrom, hhead,
        ← entriesFrom_of_empty line htail]
      rfl

/-! ## 3. Handlers without lines -/

/-- Lines that are listed with the same places are led back to the same. -/
theorem locate_eq_of_placedLines (h : changed.placedLines = program.placedLines) (line : Nat) :
    changed.flatten.map.locate line = program.flatten.map.locate line := by
  cases line with
  | zero => rw [locate_flatten_zero, locate_flatten_zero]
  | succ line => rw [locate_flatten, locate_flatten, h]

/-- **Handlers without lines have empty runs**, all at the same line. -/
theorem lineRange?_of_empty
    (hs : program.sections = before ++ (handlers.map (owner, ·) ++ after))
    (hempty : ∀ handler ∈ handlers, handler.body = []) {index : Nat}
    (hle : before.length ≤ index) (hlt : index < before.length + handlers.length) :
    program.flatten.map.lineRange? index =
      some ((placedIn before).length + 1, (placedIn before).length + 1) := by
  obtain ⟨place, rfl⟩ := Nat.exists_eq_add_of_le hle
  have hplace := List.getElem?_eq_getElem (Nat.lt_of_add_lt_add_left hlt)
  obtain ⟨front, back, hhandlers, rfl⟩ := exists_split_of_getElem? hplace
  rw [hhandlers] at hempty
  have hfront : placedIn (front.map (owner, ·)) = [] :=
    placedIn_eq_nil fun handler hmem => hempty handler (List.mem_append_left _ hmem)
  have hrange := lineRange?_flatten (hs.trans (by
    rw [hhandlers, List.map_append, List.map_cons, List.append_assoc, ← List.append_assoc before]
    rfl))
  rw [hempty _ (List.mem_append_right _ List.mem_cons_self), placedIn_append, hfront,
    List.append_nil, List.length_append, List.length_map] at hrange
  exact hrange

/-- **Two trees that differ in handlers without lines** have flattenings that differ in empty runs,
    wherever these handlers stand. -/
theorem addsEmptyRuns_of_sections (hs : program.sections = before ++ after)
    (hs' : changed.sections = before ++ (handlers.map (owner, ·) ++ after))
    (hempty : ∀ handler ∈ handlers, handler.body = []) :
    program.flatten.AddsEmptyRuns changed.flatten owner (handlers.map Handler.id) := by
  have hplaced : changed.placedLines = program.placedLines := by
    rw [placedLines, placedLines, hs, hs', placedIn_append, placedIn_append, placedIn_append,
      placedIn_eq_nil hempty, List.nil_append]
  have hlines : changed.bodyLines = program.bodyLines := by
    rw [← map_snd_placedLines, ← map_snd_placedLines, hplaced]
  refine ⟨congrArg Text.joinLines hlines, congrArg List.length hlines,
    locate_eq_of_placedLines hplaced, entriesFrom 1 before,
    entriesFrom (1 + (placedIn before).length) after, (placedIn before).length + 1, ?_, ?_,
    fun index hle hlt => ?_⟩
  · show entriesFrom 1 program.sections = _
    rw [hs, entriesFrom_append]
  · show entriesFrom 1 changed.sections = _
    rw [hs', entriesFrom_append, entriesFrom_append, entriesFrom_of_empty _ hempty,
      placedIn_eq_nil hempty, List.length_nil, Nat.add_zero, Nat.add_comm 1]
  · rw [length_entriesFrom] at hle hlt
    rw [List.length_map] at hlt
    exact lineRange?_of_empty hs' hempty hle hlt

/-! ## 4. The edits -/

theorem flatten_insertActor {index : Nat}
    (hok : program.insertActor index name fresh = .ok changed) :
    changed.flatten = program.flatten := by
  obtain ⟨hlt, -, rfl⟩ := insertActor_eq_ok_iff.mp hok
  obtain ⟨front, back, hactors, -, hput⟩ :=
    exists_eq_append_of_insertIdx ⟨fresh, .sprite, name, []⟩ (Nat.succ_le_of_lt hlt)
  refine flatten_eq_of_sections ?_
  rw [hput, sections_split, List.map_nil, List.nil_append]
  unfold sections
  rw [hactors, List.flatMap_append]

theorem flatten_renameActor (hok : program.renameActor id name = .ok changed) :
    changed.flatten = program.flatten := by
  obtain ⟨-, -, rfl⟩ := renameActor_eq_ok_iff.mp hok
  refine flatten_eq_of_sections ?_
  unfold sections updateActor
  rw [List.flatMap_map]
  refine congrArg (List.flatMap · program.actors) (funext fun actor => ?_)
  split <;> rfl

theorem WellFormed.flatten_setTrigger (h : program.WellFormed) {trigger : Trigger}
    (hok : program.setTrigger id handler trigger = .ok changed) :
    changed.flatten = program.flatten := by
  obtain ⟨hthere, rfl⟩ := setTrigger_eq_ok_iff.mp hok
  obtain ⟨found, hfound⟩ := handler?_of_missing? hthere
  obtain ⟨before, after, hs, hchanged⟩ := h.sections_updateHandler hfound
  exact flatten_eq_of_handler hs (hchanged _) rfl rfl

theorem WellFormed.insertHandler_addsEmptyRuns (h : program.WellFormed) {position : Option Nat}
    {trigger : Trigger} (hok : program.insertHandler id position trigger handler = .ok changed) :
    program.flatten.AddsEmptyRuns changed.flatten id [handler] := by
  obtain ⟨actor, ha, hslot, rfl⟩ := insertHandler_eq_ok_iff.mp hok
  obtain ⟨front, back, hhandlers, -, hput⟩ :=
    exists_eq_append_of_insertIdx ⟨handler, trigger, []⟩ hslot
  have hpart : actor.handlers = front ++ ([] ++ back) := hhandlers
  obtain ⟨before, after, hs, hchanged⟩ := h.sections_updateHandlers ha hpart
  have hless : program.sections = before ++ after := hs
  exact addsEmptyRuns_of_sections hless (hchanged _ [⟨handler, trigger, []⟩] hput) (by simp)

theorem WellFormed.deleteHandler_addsEmptyRuns (h : program.WellFormed) {found : Handler}
    (hfound : program.handler? id handler = some found) (hempty : found.body = [])
    (hok : program.deleteHandler id handler = .ok changed) :
    changed.flatten.AddsEmptyRuns program.flatten id [handler] := by
  obtain ⟨-, rfl⟩ := deleteHandler_eq_ok_iff.mp hok
  obtain ⟨actor, ha, hh⟩ := Option.bind_eq_some_iff.mp hfound
  obtain ⟨front, back, hhandlers, rfl⟩ := exists_eq_append_of_find? hh
  have hpart : actor.handlers = front ++ ([found] ++ back) := hhandlers
  obtain ⟨before, after, hs, hchanged⟩ := h.sections_updateHandlers ha hpart
  have hnodup := h.nodup_handlers (mem_of_actor? ha)
  rw [hhandlers] at hnodup
  -- the handler that is taken out is the only one with its id
  have hfront : ∀ other ∈ front, ¬ decide (other.id = found.id) = true := fun other hother =>
    mt of_decide_eq_true (key_ne_of_split hnodup other (List.mem_append_left _ hother))
  have hout : actor.handlers.eraseP (·.id = found.id) = front ++ ([] ++ back) := by
    rw [hhandlers, List.eraseP_append_right _ hfront, List.eraseP_cons_of_pos (by simp)]
    rfl
  have hless : (program.updateHandlers id (·.eraseP (·.id = found.id))).sections =
      before ++ after := hchanged _ [] hout
  exact addsEmptyRuns_of_sections hless hs (by simpa using hempty)

theorem WellFormed.deleteActor_addsEmptyRuns (h : program.WellFormed)
    (ha : program.actor? id = some actor) (hempty : ∀ handler ∈ actor.handlers, handler.body = [])
    (hok : program.deleteActor id = .ok (changed, previous)) :
    changed.flatten.AddsEmptyRuns program.flatten id (actor.handlers.map Handler.id) := by
  obtain ⟨front, beforeIt, deleted, back, hactors, -, rfl, rfl⟩ := exists_split_of_deleteActor hok
  have hthere : deleted ∈ program.actors := by
    rw [hactors]
    exact List.mem_append_right _ (List.mem_cons_of_mem _ List.mem_cons_self)
  obtain rfl : deleted = actor := Option.some.inj ((h.actor?_eq_some hthere).symm.trans ha)
  have hless : sections ⟨front ++ beforeIt :: back⟩ =
      sections ⟨front ++ [beforeIt]⟩ ++ sections ⟨back⟩ := by
    unfold sections
    rw [← List.flatMap_append, ← List.append_cons]
  have hmore : program.sections = sections ⟨front ++ [beforeIt]⟩ ++
      (deleted.handlers.map (deleted.id, ·) ++ sections ⟨back⟩) := by
    rw [← sections_split, ← List.append_cons, ← hactors]
  exact addsEmptyRuns_of_sections hless hmore hempty

/-- **Edits that add or remove no line keep the text**, and whatever a line is led back to. In a
    program that passes the check, a new sprite, a new name and a new trigger leave the flattening
    as it is. A new handler adds an empty run to it, whatever id it gets; to delete a handler
    without lines, or an actor with no others, removes the empty runs of these handlers. Nothing
    else changes. -/
theorem line_free_edits_keep_text (hvalid : program.validate = .ok ()) :
    (∀ index name fresh changed, program.insertActor index name fresh = .ok changed →
      changed.flatten = program.flatten) ∧
    (∀ name fresh changed, program.appendSprite name fresh = .ok changed →
      changed.flatten = program.flatten) ∧
    (∀ id name changed, program.renameActor id name = .ok changed →
      changed.flatten = program.flatten) ∧
    (∀ id handler trigger changed, program.setTrigger id handler trigger = .ok changed →
      changed.flatten = program.flatten) ∧
    (∀ id position trigger fresh changed,
      program.insertHandler id position trigger fresh = .ok changed →
        program.flatten.AddsEmptyRuns changed.flatten id [fresh]) ∧
    (∀ id handler found changed, program.handler? id handler = some found → found.body = [] →
      program.deleteHandler id handler = .ok changed →
        changed.flatten.AddsEmptyRuns program.flatten id [handler]) ∧
    ∀ id actor changed previous, program.actor? id = some actor →
      (∀ handler ∈ actor.handlers, handler.body = []) →
      program.deleteActor id = .ok (changed, previous) →
        changed.flatten.AddsEmptyRuns program.flatten id (actor.handlers.map Handler.id) := by
  have h := validate_eq_ok_iff.mp hvalid
  exact ⟨fun _ _ _ _ hok => flatten_insertActor hok, fun _ _ _ hok => flatten_insertActor hok,
    fun _ _ _ hok => flatten_renameActor hok, fun _ _ _ _ hok => h.flatten_setTrigger hok,
    fun _ _ _ _ _ hok => h.insertHandler_addsEmptyRuns hok,
    fun _ _ _ _ hfound hempty hok => h.deleteHandler_addsEmptyRuns hfound hempty hok,
    fun _ _ _ _ ha hempty hok => h.deleteActor_addsEmptyRuns ha hempty hok⟩

/-- Without the stage's first handler, which has no lines and starts where the second one does, the
    first line is still the second handler's. -/
theorem first_line_without_first_handler : ∃ changed, catOnStage.validate = .ok () ∧
    catOnStage.deleteHandler ⟨1⟩ ⟨1⟩ = .ok changed ∧
    changed.flatten.text = catOnStage.flatten.text ∧
    changed.flatten.map.locate 1 = some ⟨⟨1⟩, ⟨2⟩, 1⟩ := by
  refine ⟨_, validate_catOnStage, rfl, ?_⟩
  obtain ⟨htext, -, hlocated, -⟩ := (line_free_edits_keep_text validate_catOnStage).2.2.2.2.2.1
    ⟨1⟩ ⟨1⟩ ⟨⟨1⟩, .greenFlag, []⟩ _ rfl rfl rfl
  refine ⟨htext.symm, (hlocated 1).symm.trans ?_⟩
  rw [locate_flatten]
  rfl

end Program

end Stagecraft
