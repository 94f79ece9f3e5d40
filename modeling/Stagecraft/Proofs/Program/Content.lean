import Stagecraft.Proofs.Program.History

/-!
# Content and structure

What is in a handler, its trigger and its body, is its content. The rest of a program, which actors
and handlers there are, under which ids and names and in which order, is its structure. Edits of the
structure do not look at the content, and edits of the content change nothing else.

* `Content` is what can be written into a handler, and `Program.setContent` is what the three
  edits that do so come down to;
* `Program.mapHandlers` rewrites all handlers at once, and `Program.apply_mapHandlers` says that
  **no edit looks at content**: to rewrite and then edit is to edit and then rewrite;
* `Edit.Spares`: an edit leaves alone what another one writes, and `Program.missing?_of_apply`:
  whether a handler is there does not depend on an edit that spares it;
* `Program.content_edits_commute` is about an edit of content and any edit that spares it, and
  `Program.edited_after_content` about a whole run that does.
-/

namespace Stagecraft

/-! ## 1. Content -/

/-- The two fields of a handler beside its id. -/
inductive Field where
  | body
  | trigger
deriving DecidableEq

/-- What can be written into a handler. -/
inductive Content where
  | body (lines : List String)
  | trigger (event : Trigger)

namespace Content

/-- The field into which it is written. -/
def field : Content → Field
  | .body _ => .body
  | .trigger _ => .trigger

/-- Writes into a handler. -/
def write : Content → Handler → Handler
  | .body lines, found => { found with body := lines }
  | .trigger event, found => { found with trigger := event }

/-- Why the content is refused, whatever the handler. -/
def fault? : Content → Option EditFault
  | .body lines => (lines.findIdx? Text.hasBreak).map EditFault.brokenLine
  | .trigger _ => none

@[simp] theorem id_write (content : Content) (found : Handler) :
    (content.write found).id = found.id := by
  cases content <;> rfl

/-- Different fields are written independently. -/
theorem write_comm {content other : Content} (h : other.field ≠ content.field) (found : Handler) :
    content.write (other.write found) = other.write (content.write found) := by
  cases content <;> cases other
  case body.body => exact absurd rfl h
  case body.trigger => rfl
  case trigger.body => rfl
  case trigger.trigger => exact absurd rfl h

end Content

/-- What an edit of content writes, and into which handler of which actor. -/
def Edit.content? : Edit → Option (ActorId × HandlerId × Content)
  | setBody actor handler lines => some (actor, handler, .body lines)
  | setBodyText actor handler text => some (actor, handler, .body (Text.lines text))
  | setTrigger actor handler event => some (actor, handler, .trigger event)
  | _ => none

/-- An actor with all its handlers rewritten. -/
def Actor.mapHandlers (rewrite : ActorId → Handler → Handler) (actor : Actor) : Actor :=
  { actor with handlers := actor.handlers.map (rewrite actor.id) }

/-- To rearrange items that were rewritten is to rewrite rearranged items. -/
theorem arrange_map {α κ : Type} [DecidableEq κ] {key : α → κ} {rewrite : α → α}
    (hkeep : ∀ x, key (rewrite x) = key x) {items : List α} {order : List κ} :
    arrange key (items.map rewrite) order = (arrange key items order).map rewrite := by
  unfold arrange
  rw [List.map_filterMap]
  refine List.filterMap_congr fun k _ => ?_
  rw [List.find?_map]
  simp only [Function.comp_def, hkeep]

namespace Program

/-- Writes into a handler of an actor. -/
def setContent (program : Program) (actor : ActorId) (handler : HandlerId) (content : Content) :
    Except EditFault Program :=
  match program.missing? actor handler with
  | some fault => .error fault
  | none =>
    match content.fault? with
    | some fault => .error fault
    | none => .ok (program.updateHandler actor handler content.write)

variable {program changed : Program} {actor owner id : ActorId} {handler : HandlerId}
  {content : Content} {edit : Edit} {fresh : Ident} {reply : Reply}

theorem setContent_body (lines : List String) :
    program.setContent actor handler (.body lines) = program.setBody actor handler lines := by
  unfold setContent setBody
  cases program.missing? actor handler with
  | some fault => rfl
  | none =>
      dsimp only [Content.fault?]
      cases lines.findIdx? Text.hasBreak <;> rfl

theorem setContent_trigger (event : Trigger) :
    program.setContent actor handler (.trigger event) = program.setTrigger actor handler event := by
  unfold setContent setTrigger
  cases program.missing? actor handler <;> rfl

/-- **What an edit of content does.** -/
theorem apply_of_content? (h : edit.content? = some (actor, handler, content)) (fresh : Ident)
    (program : Program) :
    edit.apply fresh program = (·, .done) <$> program.setContent actor handler content := by
  rw [Edit.apply_eq_result]
  cases edit <;> cases h
  case setBody lines =>
      rw [setContent_body]
      rfl
  case setBodyText text =>
      rw [setContent_body]
      rfl
  case setTrigger event =>
      rw [setContent_trigger]
      rfl

/-! ## 2. Rewriting handlers -/

/-- A program with all its handlers rewritten, as the owner of each and what it was say. -/
def mapHandlers (rewrite : ActorId → Handler → Handler) (program : Program) : Program :=
  ⟨program.actors.map (Actor.mapHandlers rewrite)⟩

section Rewriting

variable {rewrite : ActorId → Handler → Handler}

theorem names_mapHandlers : (program.mapHandlers rewrite).names = program.names := by
  simp [names, mapHandlers, Actor.mapHandlers, Function.comp_def]

theorem ids_mapHandlers :
    (program.mapHandlers rewrite).actors.map Actor.id = program.actors.map Actor.id := by
  simp [mapHandlers, Actor.mapHandlers, Function.comp_def]

theorem length_mapHandlers :
    (program.mapHandlers rewrite).actors.length = program.actors.length := List.length_map _

theorem idAt_mapHandlers (index : Nat) :
    (program.mapHandlers rewrite).idAt index = program.idAt index := by
  unfold idAt mapHandlers
  rw [List.getElem?_map, Option.map_map]
  rfl

theorem actor?_mapHandlers (id : ActorId) :
    (program.mapHandlers rewrite).actor? id = (program.actor? id).map (Actor.mapHandlers rewrite) :=
  List.find?_map ..

theorem actorIndex?_mapHandlers (id : ActorId) :
    (program.mapHandlers rewrite).actorIndex? id = program.actorIndex? id := by
  unfold actorIndex? mapHandlers
  rw [List.findIdx?_map]
  rfl

/-- An actor may be rewritten before it is changed or after that, if the change commutes. -/
theorem updateActor_mapHandlers {change : Actor → Actor}
    (hcomm : ∀ actor : Actor, actor.id = id →
      change (actor.mapHandlers rewrite) = (change actor).mapHandlers rewrite) :
    (program.mapHandlers rewrite).updateActor id change =
      (program.updateActor id change).mapHandlers rewrite := by
  refine congrArg Program.mk ((List.map_map ..).trans (Eq.trans ?_ (List.map_map ..).symm))
  refine List.map_congr_left fun actor _ => ?_
  dsimp only [Function.comp_apply]
  by_cases hactor : actor.id = id
  · rw [if_pos hactor]
    exact (if_pos hactor).trans (hcomm actor hactor)
  · rw [if_neg hactor]
    exact if_neg hactor

theorem updateHandlers_mapHandlers {change : List Handler → List Handler}
    (hcomm : ∀ handlers, change (handlers.map (rewrite id)) = (change handlers).map (rewrite id)) :
    (program.mapHandlers rewrite).updateHandlers id change =
      (program.updateHandlers id change).mapHandlers rewrite := by
  refine updateActor_mapHandlers fun actor hactor => ?_
  simp [Actor.mapHandlers, hactor, hcomm]

/-! ## 3. No edit looks at content -/

theorem insertActor_mapHandlers (after : Nat) (name : String) (made : ActorId) :
    (program.mapHandlers rewrite).insertActor after name made =
      mapHandlers rewrite <$> program.insertActor after name made := by
  unfold insertActor
  rw [length_mapHandlers, names_mapHandlers]
  split
  · rfl
  · cases Name.fault? program.names name with
    | some fault => rfl
    | none =>
        show Except.ok (Program.mk ((program.actors.map (Actor.mapHandlers rewrite)).insertIdx
          (after + 1) (Actor.mapHandlers rewrite ⟨made, .sprite, name, []⟩))) = _
        rw [← List.map_insertIdx]
        rfl

theorem appendSprite_mapHandlers (name : String) (made : ActorId) :
    (program.mapHandlers rewrite).appendSprite name made =
      mapHandlers rewrite <$> program.appendSprite name made := by
  unfold appendSprite
  rw [length_mapHandlers, insertActor_mapHandlers]

theorem deleteActor_mapHandlers (id : ActorId) :
    (program.mapHandlers rewrite).deleteActor id =
      Prod.map (mapHandlers rewrite) (fun before => before) <$> program.deleteActor id := by
  unfold deleteActor
  rw [stageId, idAt_mapHandlers, ← stageId, actorIndex?_mapHandlers]
  split
  · rfl
  · cases program.actorIndex? id with
    | none => rfl
    | some index =>
        dsimp only
        rw [idAt_mapHandlers]
        exact congrArg (fun actors => Except.ok (Program.mk actors, program.idAt (index - 1)))
          (List.eraseIdx_map ..)

theorem renameActor_mapHandlers (id : ActorId) (name : String) :
    (program.mapHandlers rewrite).renameActor id name =
      mapHandlers rewrite <$> program.renameActor id name := by
  have hothers : ((program.mapHandlers rewrite).actors.filter (·.id ≠ id)).map Actor.name =
      (program.actors.filter (·.id ≠ id)).map Actor.name := by
    rw [mapHandlers, List.filter_map, List.map_map]
    rfl
  unfold renameActor
  rw [actor?_mapHandlers]
  cases program.actor? id with
  | none => rfl
  | some actor =>
      dsimp only [Option.map_some]
      rw [hothers]
      cases Name.fault? ((program.actors.filter (·.id ≠ id)).map Actor.name) name with
      | some fault => rfl
      | none => exact congrArg Except.ok (updateActor_mapHandlers fun _ _ => rfl)

theorem reorderActors_mapHandlers (order : List ActorId) :
    (program.mapHandlers rewrite).reorderActors order =
      mapHandlers rewrite <$> program.reorderActors order := by
  unfold reorderActors
  rw [ids_mapHandlers, stageId, idAt_mapHandlers, ← stageId]
  cases orderFault? (program.actors.map Actor.id) order with
  | some reason => rfl
  | none =>
      by_cases hhead : order.head? = some program.stageId
      · rw [if_pos hhead, if_pos hhead]
        have hkeep : ∀ actor : Actor, (actor.mapHandlers rewrite).id = actor.id := fun _ => rfl
        exact congrArg (Except.ok ∘ Program.mk) (arrange_map hkeep)
      · rw [if_neg hhead, if_neg hhead]
        rfl

theorem insertHandler_mapHandlers {after : Option Nat} {event : Trigger} {made : HandlerId}
    (hmade : (program.insertHandler id after event made).isOk = true →
      rewrite id ⟨made, event, []⟩ = ⟨made, event, []⟩) :
    (program.mapHandlers rewrite).insertHandler id after event made =
      mapHandlers rewrite <$> program.insertHandler id after event made := by
  unfold insertHandler at hmade ⊢
  rw [actor?_mapHandlers]
  cases hactor : program.actor? id with
  | none => rfl
  | some actor =>
      rw [hactor] at hmade
      have hlength : (actor.mapHandlers rewrite).handlers.length = actor.handlers.length :=
        List.length_map _
      cases after with
      | none =>
          refine congrArg Except.ok (updateHandlers_mapHandlers fun handlers => ?_)
          rw [List.map_cons, hmade rfl]
      | some index =>
          dsimp only [Option.map_some] at hmade ⊢
          rw [hlength]
          by_cases hindex : index < actor.handlers.length
          · rw [if_pos hindex] at hmade
            rw [if_pos hindex, if_pos hindex]
            refine congrArg Except.ok (updateHandlers_mapHandlers fun handlers => ?_)
            rw [List.map_insertIdx, hmade rfl]
          · rw [if_neg hindex, if_neg hindex]
            rfl

variable (hid : ∀ owner found, (rewrite owner found).id = found.id)

include hid

theorem ids_handlers_mapHandlers (actor : Actor) :
    (actor.mapHandlers rewrite).handlers.map Handler.id = actor.handlers.map Handler.id := by
  simp [Actor.mapHandlers, hid]

theorem missing?_mapHandlers (id : ActorId) (handler : HandlerId) :
    (program.mapHandlers rewrite).missing? id handler = program.missing? id handler := by
  unfold missing?
  rw [actor?_mapHandlers]
  cases program.actor? id with
  | none => rfl
  | some actor => simp [Actor.handler?, Actor.mapHandlers, hid]

theorem deleteHandler_mapHandlers (id : ActorId) (handler : HandlerId) :
    (program.mapHandlers rewrite).deleteHandler id handler =
      mapHandlers rewrite <$> program.deleteHandler id handler := by
  unfold deleteHandler
  rw [missing?_mapHandlers hid]
  cases program.missing? id handler with
  | some fault => rfl
  | none =>
      refine congrArg Except.ok (updateHandlers_mapHandlers fun handlers => ?_)
      rw [List.eraseP_map]
      simp only [Function.comp_def, hid]

theorem reorderHandlers_mapHandlers (id : ActorId) (order : List HandlerId) :
    (program.mapHandlers rewrite).reorderHandlers id order =
      mapHandlers rewrite <$> program.reorderHandlers id order := by
  unfold reorderHandlers
  rw [actor?_mapHandlers]
  cases program.actor? id with
  | none => rfl
  | some actor =>
      dsimp only [Option.map_some]
      rw [ids_handlers_mapHandlers hid]
      cases orderFault? (actor.handlers.map Handler.id) order with
      | some reason => rfl
      | none => exact congrArg Except.ok (updateHandlers_mapHandlers fun _ => arrange_map (hid id))

theorem setContent_mapHandlers
    (hwritten : (program.setContent id handler content).isOk = true →
      ∀ found : Handler, found.id = handler →
        content.write (rewrite id found) = rewrite id (content.write found)) :
    (program.mapHandlers rewrite).setContent id handler content =
      mapHandlers rewrite <$> program.setContent id handler content := by
  unfold setContent at hwritten ⊢
  rw [missing?_mapHandlers hid]
  cases hmissing : program.missing? id handler with
  | some fault => rfl
  | none =>
      rw [hmissing] at hwritten
      cases hfault : content.fault? with
      | some fault => rfl
      | none =>
          rw [hfault] at hwritten
          refine congrArg Except.ok (updateHandlers_mapHandlers fun handlers => ?_)
          rw [List.map_map, List.map_map]
          refine List.map_congr_left fun found _ => ?_
          dsimp only [Function.comp_apply]
          by_cases hfound : found.id = handler
          · rw [if_pos hfound, if_pos ((hid id found).trans hfound), hwritten rfl found hfound]
          · rw [if_neg hfound, if_neg (fun heq => hfound ((hid id found).symm.trans heq))]

end Rewriting

end Program

/-- The edit may come before a rewriting of all handlers or after it: what it makes is not
    rewritten, and what it writes is written all the same. -/
structure Edit.Respects (edit : Edit) (fresh : Ident)
    (rewrite : ActorId → Handler → Handler) : Prop where
  made : ∀ owner position event, edit = .insertHandler owner position event →
    rewrite owner ⟨⟨fresh⟩, event, []⟩ = ⟨⟨fresh⟩, event, []⟩
  written : ∀ owner handler content, edit.content? = some (owner, handler, content) →
    ∀ found : Handler, found.id = handler →
      content.write (rewrite owner found) = rewrite owner (content.write found)

namespace Program

variable {program changed : Program} {actor owner id : ActorId} {handler : HandlerId}
  {content : Content} {edit : Edit} {fresh : Ident} {reply : Reply}
  {rewrite : ActorId → Handler → Handler}

theorem isOk_map {ε α β : Type} {f : α → β} {outcome : Except ε α} :
    (f <$> outcome).isOk = outcome.isOk := by
  cases outcome <;> rfl

/-- **No edit looks at content.** To rewrite all handlers and then edit is to edit and then rewrite,
    whether the edit is carried out or refused. -/
theorem apply_mapHandlers (hid : ∀ owner found, (rewrite owner found).id = found.id)
    (hrespects : (edit.apply fresh program).isOk = true → edit.Respects fresh rewrite) :
    edit.apply fresh (program.mapHandlers rewrite) =
      Prod.map (mapHandlers rewrite) (fun reply => reply) <$> edit.apply fresh program := by
  have hmap : ∀ {outcome : Except EditFault Program} {reply : Reply},
      (·, reply) <$> mapHandlers rewrite <$> outcome =
        Prod.map (mapHandlers rewrite) (fun reply => reply) <$> (·, reply) <$> outcome := by
    intro outcome reply
    cases outcome <;> rfl
  cases hcontent : edit.content? with
  | some place =>
      obtain ⟨owner, handler, content⟩ := place
      rw [apply_of_content? hcontent] at hrespects
      rw [apply_of_content? hcontent, apply_of_content? hcontent, ← hmap,
        setContent_mapHandlers hid]
      exact fun hok => (hrespects (isOk_map.trans hok)).written owner handler content hcontent
  | none =>
      rw [Edit.apply_eq_result] at hrespects
      rw [Edit.apply_eq_result, Edit.apply_eq_result]
      cases edit with
      | insertActor after name => exact (congrArg _ (insertActor_mapHandlers ..)).trans hmap
      | appendSprite name => exact (congrArg _ (appendSprite_mapHandlers ..)).trans hmap
      | deleteActor id =>
          dsimp only [Edit.result]
          rw [deleteActor_mapHandlers]
          cases program.deleteActor id <;> rfl
      | renameActor id name => exact (congrArg _ (renameActor_mapHandlers ..)).trans hmap
      | reorderActors order => exact (congrArg _ (reorderActors_mapHandlers ..)).trans hmap
      | insertHandler owner position event =>
          refine (congrArg _ (insertHandler_mapHandlers fun hok => ?_)).trans hmap
          exact (hrespects (isOk_map.trans hok)).made owner position event rfl
      | deleteHandler owner handler =>
          exact (congrArg _ (deleteHandler_mapHandlers hid ..)).trans hmap
      | reorderHandlers owner order =>
          exact (congrArg _ (reorderHandlers_mapHandlers hid ..)).trans hmap
      | setBody | setBodyText | setTrigger => cases hcontent

/-! ## 4. Edits that spare a handler -/

end Program

/-- **An edit spares a field of a handler**: it does not write that field, it deletes neither the
    handler nor its owner, and what it makes has the id of neither. -/
structure Edit.Spares (edit : Edit) (fresh : Ident) (actor : ActorId) (handler : HandlerId)
    (field : Field) : Prop where
  writes_else : ∀ content, edit.content? = some (actor, handler, content) → content.field ≠ field
  keeps_actor : edit ≠ .deleteActor actor
  keeps_handler : edit ≠ .deleteHandler actor handler
  makes_other_actor : edit.MakesActor → actor ≠ ⟨fresh⟩
  makes_other_handler : ∀ owner position event, edit = .insertHandler owner position event →
    handler ≠ ⟨fresh⟩

namespace Program

variable {program changed : Program} {actor owner id : ActorId} {handler : HandlerId}
  {content : Content} {edit : Edit} {fresh : Ident} {reply : Reply}

/-- Whether an actor has a handler; `none` if there is no such actor. -/
def holds? (program : Program) (actor : ActorId) (handler : HandlerId) : Option Bool :=
  (program.actor? actor).map fun found => decide (handler ∈ found.handlers.map Handler.id)

/-- What is missing is told by that. -/
theorem missing?_eq_of_holds? : program.missing? actor handler =
    match program.holds? actor handler with
    | none => some (.unknownActor actor)
    | some false => some (.unknownHandler actor handler)
    | some true => none := by
  unfold missing? holds?
  cases program.actor? actor with
  | none => rfl
  | some found =>
      have hsome : (found.handler? handler).isSome =
          decide (handler ∈ found.handlers.map Handler.id) := by
        rw [Bool.eq_iff_iff]
        simp [Actor.handler?]
      dsimp only [Option.map_some]
      rw [hsome]
      cases decide (handler ∈ found.handlers.map Handler.id) <;> rfl

theorem holds?_congr (h : changed.actor? actor = program.actor? actor) :
    changed.holds? actor handler = program.holds? actor handler :=
  congrArg (Option.map _) h

/-- A change of an actor that neither gives nor takes the handler. -/
theorem holds?_updateActor {change : Actor → Actor} (hid : ∀ found, (change found).id = found.id)
    (hkeep : id = actor → ∀ found, program.actor? actor = some found →
      (handler ∈ (change found).handlers.map Handler.id ↔
        handler ∈ found.handlers.map Handler.id)) :
    (program.updateActor id change).holds? actor handler = program.holds? actor handler := by
  unfold holds?
  rw [actor?_updateActor_at hid, Option.map_map]
  cases hfound : program.actor? actor with
  | none => rfl
  | some found =>
      refine congrArg some (decide_eq_decide.mpr ?_)
      dsimp only
      by_cases hsame : found.id = id
      · rw [if_pos hsame]
        obtain ⟨_, _, -, hactor⟩ := exists_eq_append_of_actor? hfound
        exact hkeep (hsame.symm.trans hactor) found hfound
      · rw [if_neg hsame]

theorem holds?_updateHandler {other : HandlerId} {change : Handler → Handler}
    (hid : ∀ found, (change found).id = found.id) :
    (program.updateHandler id other change).holds? actor handler =
      program.holds? actor handler := by
  refine holds?_updateActor (fun _ => rfl) fun _ found _ => ?_
  dsimp only
  rw [map_key_update hid]

theorem actor?_insertIdx {place : Nat} {new : Actor} (hne : new.id ≠ actor)
    (h : place ≤ program.actors.length) :
    actor? ⟨program.actors.insertIdx place new⟩ actor = program.actor? actor := by
  obtain ⟨before, after, hactors, -, hput⟩ := exists_eq_append_of_insertIdx new h
  unfold actor?
  dsimp only
  rw [hput, hactors, List.find?_append, List.find?_append,
    List.find?_cons_of_neg (by simpa using hne)]

/-- **Whether a handler is there does not depend on an edit that spares it.** -/
theorem holds?_of_apply {field : Field} (hspares : edit.Spares fresh actor handler field)
    (hok : edit.apply fresh program = .ok (changed, reply)) :
    changed.holds? actor handler = program.holds? actor handler := by
  rw [Edit.apply_eq_result] at hok
  cases edit <;> obtain ⟨_, hmade, heq⟩ := Except.map_eq_ok_iff.mp hok <;> cases heq
  case insertActor =>
      obtain ⟨hlt, -, rfl⟩ := insertActor_eq_ok_iff.mp hmade
      exact holds?_congr (actor?_insertIdx (Ne.symm (hspares.makes_other_actor trivial)) hlt)
  case appendSprite =>
      obtain ⟨hlt, -, rfl⟩ := insertActor_eq_ok_iff.mp hmade
      exact holds?_congr (actor?_insertIdx (Ne.symm (hspares.makes_other_actor trivial)) hlt)
  case deleteActor made =>
      obtain ⟨front, previous, deleted, back, hactors, -, rfl, hchanged⟩ :=
        exists_split_of_deleteActor hmade
      have hne : deleted.id ≠ actor := fun heq => hspares.keeps_actor (heq ▸ rfl)
      refine holds?_congr ?_
      rw [hchanged]
      unfold actor?
      rw [hactors]
      simp [List.find?_append, List.find?_cons, hne]
  case renameActor =>
      obtain ⟨-, -, rfl⟩ := renameActor_eq_ok_iff.mp hmade
      exact holds?_updateActor (fun _ => rfl) fun _ _ _ => Iff.rfl
  case reorderActors =>
      obtain ⟨horder, -, rfl⟩ := reorderActors_eq_ok_iff.mp hmade
      have hnodup := (perm_of_orderFault? horder).2
      exact holds?_congr (find?_key_perm hnodup (arrange_perm_of_orderFault? horder) actor)
  case insertHandler =>
      obtain ⟨owner, howner, hslot, rfl⟩ := insertHandler_eq_ok_iff.mp hmade
      have hne := hspares.makes_other_handler _ _ _ rfl
      refine holds?_updateActor (fun _ => rfl) ?_
      rintro rfl found hfound
      obtain rfl : owner = found := Option.some.inj (howner.symm.trans hfound)
      rw [((List.perm_insertIdx _ owner.handlers hslot).map Handler.id).mem_iff, List.map_cons,
        List.mem_cons, or_iff_right hne]
  case deleteHandler deleted =>
      obtain ⟨-, rfl⟩ := deleteHandler_eq_ok_iff.mp hmade
      refine holds?_updateActor (fun _ => rfl) ?_
      rintro rfl found -
      have hne : deleted ≠ handler := fun heq => hspares.keeps_handler (heq ▸ rfl)
      simp only [List.mem_map]
      refine exists_congr fun kept => and_congr_left fun hkept => ?_
      exact List.mem_eraseP_of_neg (by simpa [hkept] using hne.symm)
  case reorderHandlers =>
      obtain ⟨owner, howner, horder, rfl⟩ := reorderHandlers_eq_ok_iff.mp hmade
      refine holds?_updateActor (fun _ => rfl) ?_
      rintro rfl found hfound
      obtain rfl : owner = found := Option.some.inj (howner.symm.trans hfound)
      exact ((arrange_perm_of_orderFault? horder).map Handler.id).mem_iff
  case setBody =>
      obtain ⟨-, -, rfl⟩ := setBody_eq_ok_iff.mp hmade
      exact holds?_updateHandler fun _ => rfl
  case setBodyText =>
      obtain ⟨-, -, rfl⟩ := setBody_eq_ok_iff.mp hmade
      exact holds?_updateHandler fun _ => rfl
  case setTrigger =>
      obtain ⟨-, rfl⟩ := setTrigger_eq_ok_iff.mp hmade
      exact holds?_updateHandler fun _ => rfl

theorem missing?_of_apply {field : Field} (hspares : edit.Spares fresh actor handler field)
    (hok : edit.apply fresh program = .ok (changed, reply)) :
    changed.missing? actor handler = program.missing? actor handler := by
  rw [missing?_eq_of_holds?, missing?_eq_of_holds?, holds?_of_apply hspares hok]

/-! ## 5. In either order -/

/-- Changes one handler and leaves the others. -/
def onlyAt (actor : ActorId) (handler : HandlerId) (change : Handler → Handler) (owner : ActorId)
    (found : Handler) : Handler :=
  if owner = actor ∧ found.id = handler then change found else found

theorem id_onlyAt (owner : ActorId) (found : Handler) :
    (onlyAt actor handler content.write owner found).id = found.id := by
  unfold onlyAt
  split
  · exact content.id_write found
  · rfl

theorem updateHandler_eq_mapHandlers {change : Handler → Handler} :
    program.updateHandler actor handler change =
      program.mapHandlers (onlyAt actor handler change) := by
  refine congrArg Program.mk (List.map_congr_left fun found _ => ?_)
  unfold Actor.mapHandlers onlyAt
  by_cases hactor : found.id = actor
  · simp [hactor]
  · simp [hactor]

end Program

/-- What a call of an edit answers, a reply or a fault. -/
def Edit.outcome (edit : Edit) (fresh : Ident) (program : Program) : Except EditFault Reply :=
  Prod.snd <$> edit.apply fresh program

/-- What spares a field of a handler respects what is written there. -/
theorem Edit.Spares.respects {edit : Edit} {fresh : Ident} {actor : ActorId} {handler : HandlerId}
    {content : Content} (h : edit.Spares fresh actor handler content.field) :
    edit.Respects fresh (Program.onlyAt actor handler content.write) where
  made owner position event hedit := by
    have hne := h.makes_other_handler owner position event hedit
    exact if_neg fun hthere => hne hthere.2.symm
  written owner other written hwritten found hfound := by
    unfold Program.onlyAt
    rw [written.id_write]
    by_cases hthere : owner = actor ∧ found.id = handler
    · rw [if_pos hthere, if_pos hthere]
      obtain ⟨rfl, rfl⟩ := hthere
      subst hfound
      exact Content.write_comm (Ne.symm (h.writes_else written hwritten)) found
    · rw [if_neg hthere, if_neg hthere]

namespace Program

variable {program changed : Program} {actor : ActorId} {handler : HandlerId} {content : Content}
  {edit other : Edit} {fresh : Ident}

/-- **An edit of content fares alike** on two programs that lack the same: it is refused for the
    same fault or writes the same. -/
theorem apply_content_cases (hcontent : edit.content? = some (actor, handler, content))
    (hmissing : changed.missing? actor handler = program.missing? actor handler) (any : Ident) :
    (∃ fault, edit.apply any program = .error fault ∧ edit.apply any changed = .error fault) ∨
      edit.apply any program =
          .ok (program.mapHandlers (onlyAt actor handler content.write), .done) ∧
        edit.apply any changed =
          .ok (changed.mapHandlers (onlyAt actor handler content.write), .done) := by
  rw [apply_of_content? hcontent, apply_of_content? hcontent]
  unfold setContent
  rw [hmissing, updateHandler_eq_mapHandlers, updateHandler_eq_mapHandlers]
  cases program.missing? actor handler with
  | some fault => exact .inl ⟨fault, rfl, rfl⟩
  | none =>
      cases content.fault? with
      | some fault => exact .inl ⟨fault, rfl, rfl⟩
      | none => exact .inr ⟨rfl, rfl⟩

section Either

variable (hcontent : edit.content? = some (actor, handler, content))
  (hspares : (other.apply fresh program).isOk = true →
    other.Spares fresh actor handler content.field)

include hspares in
theorem missing?_after : (other.after fresh program).missing? actor handler =
    program.missing? actor handler := by
  rw [Edit.after_eq]
  cases hok : other.apply fresh program with
  | error fault => rfl
  | ok result => exact missing?_of_apply (hspares (by rw [hok]; rfl)) hok

include hspares in
/-- Another edit does the same to rewritten handlers. -/
theorem apply_onlyAt :
    other.apply fresh (program.mapHandlers (onlyAt actor handler content.write)) =
      Prod.map (mapHandlers (onlyAt actor handler content.write)) (fun reply => reply) <$>
        other.apply fresh program :=
  apply_mapHandlers id_onlyAt fun hok => (hspares hok).respects

include hcontent hspares

/-- What an edit of content answers does not depend on another edit before it. -/
theorem outcome_content (any : Ident) :
    edit.outcome any (other.after fresh program) = edit.outcome any program := by
  unfold Edit.outcome
  rcases apply_content_cases hcontent (missing?_after hspares) any with ⟨fault, h, h'⟩ | ⟨h, h'⟩
  · rw [h, h']
  · rw [h, h']
    rfl

/-- What another edit answers does not depend on an edit of content before it. -/
theorem outcome_other (any : Ident) :
    other.outcome fresh (edit.after any program) = other.outcome fresh program := by
  rcases apply_content_cases hcontent (missing?_after hspares) any with ⟨fault, h, -⟩ | ⟨h, -⟩
  · rw [Edit.after_of_error h]
  · rw [Edit.after_of_ok h]
    unfold Edit.outcome
    rw [apply_onlyAt hspares]
    cases other.apply fresh program <;> rfl

/-- **Both orders lead to the same program.** -/
theorem after_comm (any : Ident) :
    other.after fresh (edit.after any program) = edit.after any (other.after fresh program) := by
  rcases apply_content_cases hcontent (missing?_after hspares) any with ⟨fault, h, h'⟩ | ⟨h, h'⟩
  · rw [Edit.after_of_error h, Edit.after_of_error h']
  · -- written before or after, the content goes through the other edit as it is
    rw [Edit.after_of_ok h, Edit.after_of_ok h', Edit.after_eq, Edit.after_eq other,
      apply_onlyAt hspares]
    cases other.apply fresh program <;> rfl

end Either

/-- **An edit of content and any edit that spares it may be made in either order**, on any program.
    Each of the two answers the same, a reply or a fault, whether it is made first or second, and
    both orders lead to the same program. An edit that is refused need not spare anything. -/
theorem content_edits_commute (hcontent : edit.content? = some (actor, handler, content))
    (hspares : (other.apply fresh program).isOk = true →
      other.Spares fresh actor handler content.field) (any : Ident) :
    edit.outcome any (other.after fresh program) = edit.outcome any program ∧
      other.outcome fresh (edit.after any program) = other.outcome fresh program ∧
      other.after fresh (edit.after any program) = edit.after any (other.after fresh program) :=
  ⟨outcome_content hcontent hspares any, outcome_other hcontent hspares any,
    after_comm hcontent hspares any⟩

/-- The cat's second handler gets a text, and another handler comes in front of it. -/
theorem cat_written_behind_new_handler :
    let edit : Edit := .setBodyText ⟨2⟩ ⟨4⟩ "print(b);\nprint(c);"
    let other : Edit := .insertHandler ⟨2⟩ (some 0) .startAsClone
    other.Spares 6 ⟨2⟩ ⟨4⟩ .body ∧
      edit.outcome 0 (other.after 6 catOnStage) = .ok .done ∧
      other.outcome 6 (edit.after 0 catOnStage) = .ok (.handler ⟨6⟩) ∧
      other.after 6 (edit.after 0 catOnStage) = edit.after 0 (other.after 6 catOnStage) := by
  intro edit other
  have hcontent : edit.content? =
      some (⟨2⟩, ⟨4⟩, .body (Text.lines "print(b);\nprint(c);")) := rfl
  have hspares : other.Spares 6 ⟨2⟩ ⟨4⟩ .body :=
    { writes_else := nofun
      keeps_actor := nofun
      keeps_handler := nofun
      makes_other_actor := nofun
      makes_other_handler := fun _ _ _ _ => by decide }
  obtain ⟨hedit, hother, hcomm⟩ := content_edits_commute hcontent
    (fun _ : (other.apply 6 catOnStage).isOk = true => hspares) 0
  exact ⟨hspares, hedit.trans (by decide +kernel), hother.trans rfl, hcomm⟩

/-! ## 6. Runs -/

/-- Every edit of a run that is carried out spares a field of a handler. -/
def Spared (actor : ActorId) (handler : HandlerId) (field : Field) :
    Program → List (Edit × Ident) → Prop
  | _, [] => True
  | program, (other, fresh) :: more =>
    ((other.apply fresh program).isOk = true → other.Spares fresh actor handler field) ∧
      Spared actor handler field (other.after fresh program) more

/-- **An edit of content may be put off to the end of a run** that spares it: the run leads to the
    same program, and the edit answers there what it answers at the start. -/
theorem edited_after_content (hcontent : edit.content? = some (actor, handler, content))
    {edits : List (Edit × Ident)} (hspared : Spared actor handler content.field program edits)
    (any : Ident) : (edit.after any program).edited edits = edit.after any (program.edited edits) ∧
      edit.outcome any (program.edited edits) = edit.outcome any program := by
  induction edits generalizing program with
  | nil => exact ⟨rfl, rfl⟩
  | cons first more ih =>
      obtain ⟨other, fresh⟩ := first
      obtain ⟨hspares, hmore⟩ := hspared
      obtain ⟨hprogram, houtcome⟩ := ih hmore
      constructor
      · rw [Program.edited, after_comm hcontent hspares any]
        exact hprogram
      · exact houtcome.trans (outcome_content hcontent hspares any)

end Program

end Stagecraft
