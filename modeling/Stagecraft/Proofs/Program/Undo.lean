import Stagecraft.Proofs.Program.Agreement
import Stagecraft.Proofs.Program.History

/-!
# Every edit can be taken back

Except for the two deletions, an edit that was carried out is taken back by one further edit, which
is never refused and leaves the program exactly as it was.

* `Edit.undo?` is the edit that takes an edit back, told from the program before it and from what
  it answered; `Edit.undoReply` is what that edit answers;
* a change of handlers is taken back by what makes the old list of the new one
  (`Program.WellFormed.updateHandlers_back`), and so there is one lemma for each operation;
* `Program.edits_undone` is about all edits, and `Program.edited_undoLog` takes back a whole run.
-/

namespace Stagecraft

/-! ## 1. What takes an edit back -/

namespace Edit

/-- The edit that takes an edit back: what was made is deleted, and what was changed is set to what
    it was in the program before. Nothing takes a deletion back. -/
def undo? (edit : Edit) (reply : Reply) (program : Program) : Option Edit :=
  match edit, reply with
  | insertActor .., .actor made => some (.deleteActor made)
  | appendSprite _, .actor made => some (.deleteActor made)
  | renameActor actor _, _ => (program.actor? actor).map fun a => .renameActor actor a.name
  | reorderActors _, _ => some (.reorderActors (program.actors.map Actor.id))
  | insertHandler actor .., .handler made => some (.deleteHandler actor made)
  | reorderHandlers actor _, _ =>
    (program.actor? actor).map fun a => .reorderHandlers actor (a.handlers.map Handler.id)
  | setBody actor handler _, _ =>
    (program.handler? actor handler).map fun h => .setBody actor handler h.body
  | setBodyText actor handler _, _ =>
    (program.handler? actor handler).map fun h => .setBody actor handler h.body
  | setTrigger actor handler _, _ =>
    (program.handler? actor handler).map fun h => .setTrigger actor handler h.trigger
  | _, _ => none

/-- What the edit that takes an edit back answers: for a deleted actor, who stands before it. -/
def undoReply (edit : Edit) (program : Program) : Reply :=
  match edit with
  | insertActor after _ => .actor (program.idAt after)
  | appendSprite _ => .actor (program.idAt (program.actors.length - 1))
  | _ => .done

/-- The edit deletes something. -/
def Deletes : Edit → Prop
  | deleteActor _ | deleteHandler .. => True
  | _ => False

end Edit

namespace Program

variable {program changed : Program} {id fresh : ActorId} {handler : HandlerId} {actor : Actor}
  {name : String}

/-! ## 2. Actors -/

theorem idAt_insertIdx {index place : Nat} (h : index < place) (new : Actor) :
    idAt ⟨program.actors.insertIdx place new⟩ index = program.idAt index := by
  unfold idAt
  rw [List.getElem?_insertIdx_of_lt h]

/-- Where an actor with a new id is put in, it is found there. -/
theorem actorIndex?_insertIdx {place : Nat} {new : Actor}
    (hnew : new.id ∉ program.actors.map Actor.id) (h : place ≤ program.actors.length) :
    actorIndex? ⟨program.actors.insertIdx place new⟩ new.id = some place := by
  obtain ⟨before, after, hactors, rfl, hput⟩ := exists_eq_append_of_insertIdx new h
  have hbefore : before.findIdx? (·.id = new.id) = none := by
    refine List.findIdx?_eq_none_iff.mpr fun other hother => decide_eq_false fun heq => hnew ?_
    rw [hactors, List.map_append]
    exact List.mem_append_left _ (heq ▸ List.mem_map_of_mem hother)
  unfold actorIndex?
  dsimp only
  rw [hput, List.findIdx?_append, hbefore, List.findIdx?_cons]
  simp

theorem WellFormed.deleteActor_inserted (h : program.WellFormed) {index : Nat}
    (hfresh : fresh ∉ program.actors.map Actor.id)
    (hok : program.insertActor index name fresh = .ok changed) :
    changed.deleteActor fresh = .ok (program, program.idAt index) := by
  obtain ⟨hlt, -, rfl⟩ := insertActor_eq_ok_iff.mp hok
  refine deleteActor_eq_ok_iff.mpr ⟨fun hstage => hfresh ?_, index + 1,
    actorIndex?_insertIdx hfresh hlt, ?_, ?_⟩
  · rw [← hstage, stageId, idAt_insertIdx (Nat.succ_pos index)]
    exact h.stageId_mem
  · rw [List.eraseIdx_insertIdx_self]
  · rw [Nat.add_sub_cancel, idAt_insertIdx (Nat.lt_succ_self index)]

/-- The other actors are as before. -/
theorem others_updateActor {change : Actor → Actor} (hid : ∀ actor, (change actor).id = actor.id) :
    (program.updateActor id change).actors.filter (·.id ≠ id) =
      program.actors.filter (·.id ≠ id) := by
  unfold updateActor
  dsimp only
  rw [List.filter_map]
  simp only [Function.comp_def, key_update hid id]
  refine (List.map_congr_left fun actor hactor => ?_).trans (List.map_id' _)
  exact if_neg (of_decide_eq_true (List.mem_filter.mp hactor).2)

theorem WellFormed.renameActor_back (h : program.WellFormed) (ha : program.actor? id = some actor)
    (hok : program.renameActor id name = .ok changed) :
    changed.renameActor id actor.name = .ok program := by
  obtain ⟨-, -, rfl⟩ := renameActor_eq_ok_iff.mp hok
  have hthere := mem_of_actor? ha
  obtain ⟨_, _, -, rfl⟩ := exists_eq_append_of_actor? ha
  have hid : ∀ a : Actor, { a with name := name }.id = a.id := fun _ => rfl
  refine renameActor_eq_ok_iff.mpr ⟨⟨{ actor with name := name }, ?_⟩, ?_, ?_⟩
  · rw [actor?_updateActor hid, ha, Option.map_some]
  · rw [others_updateActor hid]
    exact h.fault?_own_name hthere
  · rw [updateActor_updateActor hid]
    refine (updateActor_eq_self fun other hother hid => ?_).symm
    rw [h.eq_of_id_eq hthere hother hid]
    rfl

theorem WellFormed.head?_ids (h : program.WellFormed) :
    (program.actors.map Actor.id).head? = some program.stageId := by
  obtain ⟨-, stage, sprites, hactors, -⟩ := wellFormed_iff.mp h
  rw [stageId_eq hactors, hactors]
  rfl

theorem WellFormed.reorderActors_back (h : program.WellFormed) {order : List ActorId}
    (hok : program.reorderActors order = .ok changed) :
    changed.reorderActors (program.actors.map Actor.id) = .ok program := by
  have hchanged := h.reorderActors hok
  obtain ⟨horder, hhead, rfl⟩ := reorderActors_eq_ok_iff.mp hok
  have hperm := (orderFault?_eq_none_iff h.actors_distinct).mp horder
  have hids : (arrange Actor.id program.actors order).map Actor.id = order :=
    map_arrange fun k hk => hperm.subset hk
  refine reorderActors_eq_ok_iff.mpr ⟨?_, ?_, ?_⟩
  · refine (orderFault?_eq_none_iff hchanged.actors_distinct).mpr ?_
    rw [hids]
    exact hperm.symm
  · -- the stage is first in both orders, so it is the same actor
    have hstage := hchanged.head?_ids
    rw [hids, hhead] at hstage
    rw [h.head?_ids, hstage]
  · rw [arrange_arrange h.actors_distinct hperm, arrange_self h.actors_distinct]

/-! ## 3. Handlers -/

theorem actor?_updateHandlers (ha : program.actor? id = some actor)
    (change : List Handler → List Handler) :
    (program.updateHandlers id change).actor? id =
      some { actor with handlers := change actor.handlers } := by
  have hid : ∀ a : Actor, { a with handlers := change a.handlers }.id = a.id := fun _ => rfl
  exact (actor?_updateActor hid).trans (congrArg (Option.map _) ha)

/-- Which handlers are there after a change of an actor's handlers. -/
theorem missing?_updateHandlers_iff (ha : program.actor? id = some actor)
    {change : List Handler → List Handler} :
    (program.updateHandlers id change).missing? id handler = none ↔
      handler ∈ (change actor.handlers).map Handler.id := by
  simp [missing?, actor?_updateHandlers ha change, Actor.handler?]

/-- **A change of the handlers is taken back** by one that makes the old list of the new one. -/
theorem WellFormed.updateHandlers_back (h : program.WellFormed)
    (ha : program.actor? id = some actor) {change back : List Handler → List Handler}
    (hback : back (change actor.handlers) = actor.handlers) :
    (program.updateHandlers id change).updateHandlers id back = program := by
  have hthere := mem_of_actor? ha
  obtain ⟨_, _, -, rfl⟩ := exists_eq_append_of_actor? ha
  have hkeep : ∀ a : Actor, { a with handlers := change a.handlers }.id = a.id := fun _ => rfl
  refine (updateActor_updateActor hkeep).trans (updateActor_eq_self fun other hother hid => ?_)
  rw [h.eq_of_id_eq hthere hother hid, Function.comp_apply, hback]

/-- **A change of a handler is taken back** by one that makes the old handler of the new one. -/
theorem WellFormed.updateHandler_back (h : program.WellFormed) {found : Handler}
    (hfound : program.handler? id handler = some found) {change : Handler → Handler}
    (hid : ∀ found, (change found).id = found.id) (back : Handler → Handler)
    (hback : back (change found) = found) :
    (program.updateHandler id handler change).missing? id handler = none ∧
      (program.updateHandler id handler change).updateHandler id handler back = program := by
  obtain ⟨actor, ha, hh⟩ := Option.bind_eq_some_iff.mp hfound
  obtain ⟨front, rest, hhandlers, rfl⟩ := exists_eq_append_of_find? hh
  refine ⟨(missing?_updateHandlers_iff ha).mpr ?_, h.updateHandlers_back ha ?_⟩
  · rw [map_key_update hid, hhandlers, List.map_append]
    exact List.mem_append_right _ List.mem_cons_self
  · have hnodup := h.nodup_handlers (mem_of_actor? ha)
    rw [hhandlers] at hnodup ⊢
    have hnodup' : ((front ++ change found :: rest).map Handler.id).Nodup := by
      rw [List.map_append, List.map_cons, hid, ← List.map_cons, ← List.map_append]
      exact hnodup
    rw [map_update_split change hnodup, ← hid found, map_update_split back hnodup', hback]

theorem WellFormed.deleteHandler_inserted (h : program.WellFormed) {made : HandlerId}
    (hfresh : made ∉ program.handlerIds) {position : Option Nat} {trigger : Trigger}
    (hok : program.insertHandler id position trigger made = .ok changed) :
    changed.deleteHandler id made = .ok program := by
  obtain ⟨actor, ha, hslot, rfl⟩ := insertHandler_eq_ok_iff.mp hok
  obtain ⟨front, back, hhandlers, -, hput⟩ :=
    exists_eq_append_of_insertIdx ⟨made, trigger, []⟩ hslot
  refine deleteHandler_eq_ok_iff.mpr
    ⟨(missing?_updateHandlers_iff ha).mpr ?_, (h.updateHandlers_back ha ?_).symm⟩
  · rw [hput, List.map_append]
    exact List.mem_append_right _ List.mem_cons_self
  · have hfront : ∀ found ∈ front, ¬ decide (found.id = made) = true := by
      intro found hmem hid
      have hthere : found ∈ actor.handlers := hhandlers ▸ List.mem_append_left _ hmem
      exact hfresh (mem_handlerIds.mpr
        ⟨actor, mem_of_actor? ha, found, hthere, of_decide_eq_true hid⟩)
    rw [hput, List.eraseP_append_right _ hfront, List.eraseP_cons_of_pos (by simp), hhandlers]

theorem WellFormed.reorderHandlers_back (h : program.WellFormed)
    (ha : program.actor? id = some actor) {order : List HandlerId}
    (hok : program.reorderHandlers id order = .ok changed) :
    changed.reorderHandlers id (actor.handlers.map Handler.id) = .ok program := by
  obtain ⟨actor', ha', horder, rfl⟩ := reorderHandlers_eq_ok_iff.mp hok
  obtain rfl : actor = actor' := Option.some.inj (ha.symm.trans ha')
  have hnodup := h.nodup_handlers (mem_of_actor? ha)
  have hperm := (orderFault?_eq_none_iff hnodup).mp horder
  have hids : (arrange Handler.id actor.handlers order).map Handler.id = order :=
    map_arrange fun k hk => hperm.subset hk
  refine reorderHandlers_eq_ok_iff.mpr
    ⟨{ actor with handlers := arrange Handler.id actor.handlers order }, ?_, ?_, ?_⟩
  · exact actor?_updateHandlers ha _
  · rw [hids]
    exact (orderFault?_eq_none_iff (hperm.nodup_iff.mpr hnodup)).mpr hperm.symm
  · refine (h.updateHandlers_back ha ?_).symm
    rw [arrange_arrange hnodup hperm, arrange_self hnodup]

theorem handler?_of_missing? (hthere : program.missing? id handler = none) :
    ∃ found, program.handler? id handler = some found := by
  obtain ⟨actor, ha, found, hfound⟩ := missing?_eq_none_iff.mp hthere
  exact ⟨found, Option.bind_eq_some_iff.mpr ⟨actor, ha, hfound⟩⟩

theorem WellFormed.setBody_back (h : program.WellFormed) {found : Handler}
    (hfound : program.handler? id handler = some found) {lines : List String}
    (hok : program.setBody id handler lines = .ok changed) :
    changed.setBody id handler found.body = .ok program := by
  obtain ⟨-, -, rfl⟩ := setBody_eq_ok_iff.mp hok
  obtain ⟨actor, ha, hh⟩ := Option.bind_eq_some_iff.mp hfound
  have hid : ∀ old : Handler, { old with body := lines }.id = old.id := fun _ => rfl
  obtain ⟨hthere, hback⟩ :=
    h.updateHandler_back hfound hid (fun new => { new with body := found.body }) rfl
  refine setBody_eq_ok_iff.mpr ⟨hthere, ?_, hback.symm⟩
  exact h.lines_unbroken actor (mem_of_actor? ha) found (List.mem_of_find?_eq_some hh)

theorem WellFormed.setTrigger_back (h : program.WellFormed) {found : Handler}
    (hfound : program.handler? id handler = some found) {trigger : Trigger}
    (hok : program.setTrigger id handler trigger = .ok changed) :
    changed.setTrigger id handler found.trigger = .ok program := by
  obtain ⟨-, rfl⟩ := setTrigger_eq_ok_iff.mp hok
  have hid : ∀ old : Handler, { old with trigger := trigger }.id = old.id := fun _ => rfl
  obtain ⟨hthere, hback⟩ :=
    h.updateHandler_back hfound hid (fun new => { new with trigger := found.trigger }) rfl
  exact setTrigger_eq_ok_iff.mpr ⟨hthere, hback.symm⟩

/-! ## 4. All edits -/

variable {edit : Edit} {reply : Reply}

/-- **An edit that was carried out is taken back**, if it is none of the deletions. -/
theorem WellFormed.undone (h : program.WellFormed) {fresh : Ident}
    (hnew : edit.IsNew fresh program) (hkeeps : ¬ edit.Deletes)
    (hok : edit.apply fresh program = .ok (changed, reply)) :
    ∃ undo, edit.undo? reply program = some undo ∧
      ∀ any : Ident, undo.apply any changed = .ok (program, edit.undoReply program) := by
  have hdone : ∀ {outcome : Except EditFault Program}, outcome = .ok program →
      (·, Reply.done) <$> outcome = .ok (program, .done) := by
    rintro _ rfl
    rfl
  simp only [Edit.apply_eq_result] at hok ⊢
  cases edit <;> obtain ⟨_, hmade, heq⟩ := Except.map_eq_ok_iff.mp hok <;> cases heq
  case insertActor =>
      exact ⟨_, rfl, fun _ => Except.map_eq_ok_iff.mpr ⟨_, h.deleteActor_inserted hnew hmade, rfl⟩⟩
  case appendSprite =>
      exact ⟨_, rfl, fun _ => Except.map_eq_ok_iff.mpr ⟨_, h.deleteActor_inserted hnew hmade, rfl⟩⟩
  case deleteActor => exact absurd trivial hkeeps
  case renameActor =>
      obtain ⟨⟨actor, ha⟩, -, -⟩ := renameActor_eq_ok_iff.mp hmade
      exact ⟨_, congrArg (Option.map _) ha, fun _ => hdone (h.renameActor_back ha hmade)⟩
  case reorderActors => exact ⟨_, rfl, fun _ => hdone (h.reorderActors_back hmade)⟩
  case insertHandler =>
      exact ⟨_, rfl, fun _ => hdone (h.deleteHandler_inserted hnew hmade)⟩
  case deleteHandler => exact absurd trivial hkeeps
  case reorderHandlers =>
      obtain ⟨actor, ha, -, -⟩ := reorderHandlers_eq_ok_iff.mp hmade
      exact ⟨_, congrArg (Option.map _) ha, fun _ => hdone (h.reorderHandlers_back ha hmade)⟩
  case setBody =>
      obtain ⟨hthere, -, -⟩ := setBody_eq_ok_iff.mp hmade
      obtain ⟨found, hfound⟩ := handler?_of_missing? hthere
      exact ⟨_, congrArg (Option.map _) hfound, fun _ => hdone (h.setBody_back hfound hmade)⟩
  case setBodyText =>
      obtain ⟨hthere, -, -⟩ := setBody_eq_ok_iff.mp hmade
      obtain ⟨found, hfound⟩ := handler?_of_missing? hthere
      exact ⟨_, congrArg (Option.map _) hfound, fun _ => hdone (h.setBody_back hfound hmade)⟩
  case setTrigger =>
      obtain ⟨hthere, -⟩ := setTrigger_eq_ok_iff.mp hmade
      obtain ⟨found, hfound⟩ := handler?_of_missing? hthere
      exact ⟨_, congrArg (Option.map _) hfound, fun _ => hdone (h.setTrigger_back hfound hmade)⟩

/-- **Every edit except the deletions is undone exactly by one further edit**, which is never
    refused. Let a program have passed the check, and let an edit that deletes nothing have been
    carried out on it, with a new id for what it makes. The edit that `Edit.undo?` names then gives
    back the whole program, and answers what it is said to answer. -/
theorem edits_undone (hvalid : program.validate = .ok ()) {fresh : Ident}
    (hnew : edit.IsNew fresh program) (hkeeps : ¬ edit.Deletes)
    (hok : edit.apply fresh program = .ok (changed, reply)) :
    ∃ undo, edit.undo? reply program = some undo ∧
      ∀ any : Ident, undo.apply any changed = .ok (program, edit.undoReply program) :=
  (validate_eq_ok_iff.mp hvalid).undone hnew hkeeps hok

/-- The dog that came behind the stage goes again, and the stage is who stands before it. -/
theorem dog_undone : ∃ changed,
    (Edit.insertActor 0 "Dog").apply 3 catOnStage = .ok (changed, .actor ⟨3⟩) ∧
    (Edit.deleteActor ⟨3⟩).apply 0 changed = .ok (catOnStage, .actor ⟨1⟩) := by
  have hok : (Edit.insertActor 0 "Dog").apply 3 catOnStage =
      .ok (⟨catOnStage.actors.insertIdx 1 ⟨⟨3⟩, .sprite, "Dog", []⟩⟩, .actor ⟨3⟩) := rfl
  obtain ⟨_, hundo, hback⟩ := edits_undone validate_catOnStage (by decide) id hok
  cases hundo
  exact ⟨_, hok, hback 0⟩

/-! ## 5. Runs -/

/-- What takes edits back, the last one first. A refused edit needs nothing. -/
def undoLog : Program → List (Edit × Ident) → List (Edit × Ident)
  | _, [] => []
  | program, (edit, fresh) :: more =>
    undoLog (edit.after fresh program) more ++
      match edit.apply fresh program with
      | .ok (_, reply) => ((edit.undo? reply program).map (·, fresh)).toList
      | .error _ => []

/-- **A whole run is taken back**, if it deletes nothing and uses no id a second time. -/
theorem WellFormed.edited_undoLog (h : program.WellFormed) {met : List Program}
    {edits : List (Edit × Ident)} (hnew : NeverReuses met program edits)
    (hkeeps : ∀ edit ∈ edits.map Prod.fst, ¬ edit.Deletes) :
    (program.edited edits).edited (program.undoLog edits) = program := by
  induction edits generalizing met program with
  | nil => rfl
  | cons first more ih =>
      obtain ⟨edit, fresh⟩ := first
      obtain ⟨hdraws, hmore⟩ := hnew
      rw [List.map_cons, List.forall_mem_cons] at hkeeps
      have hafter : (edit.after fresh program).WellFormed :=
        h.edited fun hok => hdraws hok program List.mem_cons_self
      rw [Program.edited, undoLog, edited_append, ih hafter hmore hkeeps.2]
      rw [Edit.after_eq]
      cases hok : edit.apply fresh program with
      | error fault => rfl
      | ok result =>
          obtain ⟨undo, hundo, hback⟩ := h.undone
            (hdraws (by rw [hok]; rfl) program List.mem_cons_self) hkeeps.1 hok
          dsimp only
          rw [hundo]
          simp [Program.edited, Edit.after_eq, hback fresh]

end Program

end Stagecraft
