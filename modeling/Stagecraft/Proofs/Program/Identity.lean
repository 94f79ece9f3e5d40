import Mathlib.Data.List.Flatten
import Mathlib.Data.List.Perm.Subperm
import Stagecraft.Proofs.Flattening.Inverse
import Stagecraft.Proofs.Program.Preservation

/-!
# What edits do to ids

An edit makes an actor or a handler, takes one out, or changes what stands under an id.

* `Edit.Effect` lists what an edit can do to the actors, and `Program.effect_of_apply` says that it
  does no more;
* `Program.Owns`: a handler is one of an actor's;
* `Program.owns_of_apply`: whose handler it is after an edit, it was before, or the edit has made
  the handler there;
* `Program.mem_ids_of_apply`: an actor is still there after an edit, or the edit has deleted it.

None of that asks that the program is well formed or that an id is new.
`Program.owns_of_apply_of_isNew` does: a handler that is gone does not come back.
-/

namespace Stagecraft

/-! ## 1. New orders -/

section Keys

variable {α κ : Type} [DecidableEq κ] {key : α → κ}

/-- What is accepted as a new order rearranges the keys, none of which occurs twice. -/
theorem perm_of_orderFault? {current proposed : List κ}
    (h : orderFault? current proposed = none) : proposed.Perm current ∧ current.Nodup := by
  unfold orderFault? at h
  split at h
  · cases h
  next hlen =>
    split at h
    · cases h
    next hnodup =>
      split at h
      next hsame =>
        have hsub : proposed.Subperm current :=
          List.subperm_of_subset (not_not.mp hnodup) fun k hk => hsame.1 k hk
        have hperm := hsub.perm_of_length_le (Nat.le_of_eq (not_not.mp hlen))
        exact ⟨hperm, hperm.nodup_iff.mp (not_not.mp hnodup)⟩
      next => cases h

theorem arrange_perm_of_orderFault? {items : List α} {order : List κ}
    (h : orderFault? (items.map key) order = none) : (arrange key items order).Perm items := by
  obtain ⟨hperm, hnodup⟩ := perm_of_orderFault? h
  exact arrange_perm hnodup hperm

theorem arrange_subset {items : List α} {order : List κ} : arrange key items order ⊆ items := by
  intro x hx
  obtain ⟨_, -, hfind⟩ := List.mem_filterMap.mp hx
  exact List.mem_of_find?_eq_some hfind

end Keys

/-! ## 2. What an edit can do -/

/-- The edit makes an actor. -/
def Edit.MakesActor : Edit → Prop
  | insertActor .. | appendSprite _ => True
  | _ => False

/-- What an edit makes of a program. -/
inductive Edit.Effect (edit : Edit) (fresh : Ident) (program : Program) : Program → Prop where
  /-- It makes a sprite without handlers. -/
  | makesActor (index : Nat) (name : String) (hedit : edit.MakesActor)
      (h : index < program.actors.length) :
      Effect edit fresh program
        ⟨program.actors.insertIdx (index + 1) ⟨⟨fresh⟩, .sprite, name, []⟩⟩
  /-- It deletes an actor that stands behind another one. -/
  | deletesActor (front : List Actor) (actor deleted : Actor) (back : List Actor)
      (hedit : edit = .deleteActor deleted.id)
      (hactors : program.actors = front ++ actor :: deleted :: back) :
      Effect edit fresh program ⟨front ++ actor :: back⟩
  /-- It rearranges the actors. -/
  | rearranges (actors : List Actor) (h : actors.Perm program.actors) :
      Effect edit fresh program ⟨actors⟩
  /-- It makes a handler of an actor. -/
  | makesHandler (id : ActorId) (position : Option Nat) (trigger : Trigger)
      (hedit : edit = .insertHandler id position trigger) :
      Effect edit fresh program
        (program.updateHandlers id (·.insertIdx (slot position) ⟨⟨fresh⟩, trigger, []⟩))
  /-- It changes an actor, which keeps its id and kind and gets no handler that it had not. -/
  | changes (id : ActorId) (change : Actor → Actor) (hid : ∀ actor, (change actor).id = actor.id)
      (hkind : ∀ actor, (change actor).kind = actor.kind)
      (hhandlers : ∀ actor,
        (change actor).handlers.map Handler.id ⊆ actor.handlers.map Handler.id) :
      Effect edit fresh program (program.updateActor id change)

namespace Program

variable {program changed : Program} {id owner previous : ActorId} {fresh : Ident}
  {handler : HandlerId} {edit : Edit} {reply : Reply}

/-- **Where the deleted actor stood**: directly behind the actor that the edit names. -/
theorem exists_split_of_deleteActor (hok : program.deleteActor id = .ok (changed, previous)) :
    ∃ front actor deleted back, program.actors = front ++ actor :: deleted :: back ∧
      actor.id = previous ∧ deleted.id = id ∧ changed = ⟨front ++ actor :: back⟩ := by
  obtain ⟨hstage, index, hindex, rfl, rfl⟩ := deleteActor_eq_ok_iff.mp hok
  obtain ⟨hlt, hfound, -⟩ := List.findIdx?_eq_some_iff_getElem.mp hindex
  have hid : program.actors[index].id = id := of_decide_eq_true hfound
  cases index with
  | zero =>
      -- the first actor is the one that is not deleted
      refine absurd ?_ hstage
      rw [← hid, stageId, idAt, List.getElem?_eq_getElem hlt]
      rfl
  | succ index =>
      have hprevious : index < program.actors.length := Nat.lt_of_succ_lt hlt
      refine ⟨program.actors.take index, program.actors[index], program.actors[index + 1],
        program.actors.drop (index + 2), ?_, ?_, hid, ?_⟩
      · rw [← List.drop_eq_getElem_cons hlt, ← List.drop_eq_getElem_cons hprevious,
          List.take_append_drop]
      · rw [Nat.add_sub_cancel, idAt, List.getElem?_eq_getElem hprevious]
        rfl
      · rw [List.eraseIdx_eq_take_drop_succ, List.take_succ_eq_append_getElem hprevious,
          List.append_assoc, List.singleton_append]

theorem effect_updateHandlers {change : List Handler → List Handler}
    (hsub : ∀ handlers, (change handlers).map Handler.id ⊆ handlers.map Handler.id) :
    edit.Effect fresh program (program.updateHandlers id change) :=
  .changes id _ (fun _ => rfl) (fun _ => rfl) fun actor => hsub actor.handlers

theorem effect_updateHandler {change : Handler → Handler}
    (hkeep : ∀ found, (change found).id = found.id) :
    edit.Effect fresh program (program.updateHandler id handler change) := by
  refine effect_updateHandlers fun handlers => ?_
  rw [map_key_update hkeep handlers handler]
  exact List.Subset.refl _

/-- **An edit does no more than that.** -/
theorem effect_of_apply (hok : edit.apply fresh program = .ok (changed, reply)) :
    edit.Effect fresh program changed := by
  rw [Edit.apply_eq_result] at hok
  cases edit <;> obtain ⟨_, hmade, heq⟩ := Except.map_eq_ok_iff.mp hok <;> cases heq
  case insertActor =>
      obtain ⟨hlt, -, rfl⟩ := insertActor_eq_ok_iff.mp hmade
      exact .makesActor _ _ trivial hlt
  case appendSprite =>
      obtain ⟨hlt, -, rfl⟩ := insertActor_eq_ok_iff.mp hmade
      exact .makesActor _ _ trivial hlt
  case deleteActor made =>
      obtain ⟨front, actor, deleted, back, hactors, -, rfl, hchanged⟩ :=
        exists_split_of_deleteActor hmade
      rw [hchanged]
      exact .deletesActor front actor deleted back rfl hactors
  case renameActor =>
      obtain ⟨-, -, rfl⟩ := renameActor_eq_ok_iff.mp hmade
      exact .changes _ _ (fun _ => rfl) (fun _ => rfl) fun _ => List.Subset.refl _
  case reorderActors =>
      obtain ⟨horder, -, rfl⟩ := reorderActors_eq_ok_iff.mp hmade
      exact .rearranges _ (arrange_perm_of_orderFault? horder)
  case insertHandler =>
      obtain ⟨-, -, -, rfl⟩ := insertHandler_eq_ok_iff.mp hmade
      exact .makesHandler _ _ _ rfl
  case deleteHandler =>
      obtain ⟨-, rfl⟩ := deleteHandler_eq_ok_iff.mp hmade
      exact effect_updateHandlers fun _ => List.map_subset _ List.eraseP_subset
  case reorderHandlers =>
      obtain ⟨-, -, -, rfl⟩ := reorderHandlers_eq_ok_iff.mp hmade
      exact effect_updateHandlers fun _ => List.map_subset _ arrange_subset
  case setBody =>
      obtain ⟨-, -, rfl⟩ := setBody_eq_ok_iff.mp hmade
      exact effect_updateHandler fun _ => rfl
  case setBodyText =>
      obtain ⟨-, -, rfl⟩ := setBody_eq_ok_iff.mp hmade
      exact effect_updateHandler fun _ => rfl
  case setTrigger =>
      obtain ⟨-, rfl⟩ := setTrigger_eq_ok_iff.mp hmade
      exact effect_updateHandler fun _ => rfl

/-! ## 3. Whose a handler is -/

/-- The handler is one of the actor's. -/
def Owns (program : Program) (owner : ActorId) (handler : HandlerId) : Prop :=
  ∃ actor ∈ program.actors, actor.id = owner ∧ handler ∈ actor.handlers.map Handler.id

theorem mem_handlerIds_iff_owns :
    handler ∈ program.handlerIds ↔ ∃ owner, program.Owns owner handler := by
  rw [mem_handlerIds]
  constructor
  · intro h
    obtain ⟨actor, ha, found, hfound, rfl⟩ := h
    exact ⟨actor.id, actor, ha, rfl, List.mem_map_of_mem hfound⟩
  · intro h
    obtain ⟨_, actor, ha, -, hh⟩ := h
    obtain ⟨found, hfound, rfl⟩ := List.mem_map.mp hh
    exact ⟨actor, ha, found, hfound, rfl⟩

/-- Who owns a handler is an actor of the program. -/
theorem Owns.mem_ids (h : program.Owns owner handler) : owner ∈ program.actors.map Actor.id := by
  obtain ⟨actor, ha, rfl, -⟩ := h
  exact List.mem_map_of_mem ha

/-- In a well-formed program a handler has one owner. -/
theorem WellFormed.owner_unique (h : program.WellFormed) {other : ActorId}
    (howner : program.Owns owner handler)
    (hother : program.Owns other handler) : owner = other := by
  obtain ⟨actor, ha, rfl, hh⟩ := howner
  obtain ⟨actor', ha', rfl, hh'⟩ := hother
  obtain ⟨found, hfound, rfl⟩ := List.mem_map.mp hh
  obtain ⟨found', hfound', hid⟩ := List.mem_map.mp hh'
  exact (h.handler_inj ha hfound ha' hfound' hid.symm).1

/-- Whose handler it is after a change of one actor: as before, or the changed actor's. -/
theorem Owns.of_updateActor {change : Actor → Actor}
    (h : (program.updateActor id change).Owns owner handler)
    (hid : ∀ actor, (change actor).id = actor.id) :
    program.Owns owner handler ∨ owner = id ∧ ∃ actor ∈ program.actors, actor.id = id ∧
      handler ∈ (change actor).handlers.map Handler.id := by
  obtain ⟨actor, ha, rfl, hh⟩ := h
  obtain ⟨old, hold, rfl⟩ := List.mem_map.mp ha
  by_cases hold_id : old.id = id
  · rw [if_pos hold_id] at hh ⊢
    exact Or.inr ⟨(hid old).trans hold_id, old, hold, hold_id, hh⟩
  · rw [if_neg hold_id] at hh ⊢
    exact Or.inl ⟨old, hold, rfl, hh⟩

/-- **No edit gives a handler to another actor.** Whose handler it is after an edit, it was before,
    or the edit has made the handler there. -/
theorem owns_of_apply (hok : edit.apply fresh program = .ok (changed, reply))
    (h : changed.Owns owner handler) :
    program.Owns owner handler ∨ handler = ⟨fresh⟩ ∧
      ∃ position trigger, edit = .insertHandler owner position trigger := by
  cases effect_of_apply hok with
  | makesActor index name _ _ =>
      obtain ⟨actor, ha, hid, hh⟩ := h
      rcases List.eq_or_mem_of_mem_insertIdx ha with rfl | ha
      · exact absurd hh List.not_mem_nil
      · exact Or.inl ⟨actor, ha, hid, hh⟩
  | deletesActor front actor deleted back _ hactors =>
      obtain ⟨kept, ha, hid, hh⟩ := h
      have hsub : (front ++ actor :: back).Sublist program.actors := by
        rw [hactors]
        exact (((List.sublist_cons_self deleted back).cons_cons actor).append_left front)
      exact Or.inl ⟨kept, hsub.subset ha, hid, hh⟩
  | rearranges actors hperm =>
      obtain ⟨actor, ha, hid, hh⟩ := h
      exact Or.inl ⟨actor, hperm.subset ha, hid, hh⟩
  | makesHandler id position trigger hedit =>
      rcases h.of_updateActor fun _ => rfl with hold | ⟨rfl, actor, ha, hid, hh⟩
      · exact Or.inl hold
      · obtain ⟨found, hfound, rfl⟩ := List.mem_map.mp hh
        rcases List.eq_or_mem_of_mem_insertIdx hfound with rfl | hfound
        · exact Or.inr ⟨rfl, position, trigger, hedit⟩
        · exact Or.inl ⟨actor, ha, hid, List.mem_map_of_mem hfound⟩
  | changes id change hid _ hhandlers =>
      rcases h.of_updateActor hid with hold | ⟨rfl, actor, ha, hactor, hh⟩
      · exact Or.inl hold
      · exact Or.inl ⟨actor, ha, hactor, hhandlers actor hh⟩

/-- **No edit brings a handler back.** Where its id is new to a program seen before, the handlers
    of that program are after the edit whose they were before it. -/
theorem owns_of_apply_of_isNew {seen : Program} (hnew : edit.IsNew fresh seen)
    (hseen : handler ∈ seen.handlerIds) (hok : edit.apply fresh program = .ok (changed, reply))
    (h : changed.Owns owner handler) : program.Owns owner handler := by
  rcases owns_of_apply hok h with hold | ⟨rfl, position, trigger, rfl⟩
  · exact hold
  · exact absurd hseen hnew

/-! ## 4. Which actors are there -/

theorem map_id_updateActor {change : Actor → Actor} (hid : ∀ actor, (change actor).id = actor.id) :
    (program.updateActor id change).actors.map Actor.id = program.actors.map Actor.id :=
  map_key_update hid program.actors id

theorem map_id_updateHandlers (change : List Handler → List Handler) :
    (program.updateHandlers id change).actors.map Actor.id = program.actors.map Actor.id :=
  map_id_updateActor fun _ => rfl

/-- **No edit takes an actor out, except to delete it.** -/
theorem mem_ids_of_apply (hok : edit.apply fresh program = .ok (changed, reply))
    (h : id ∈ program.actors.map Actor.id) :
    id ∈ changed.actors.map Actor.id ∨ edit = .deleteActor id := by
  cases effect_of_apply hok with
  | makesActor index name _ hlt =>
      have hperm := List.perm_insertIdx (⟨⟨fresh⟩, .sprite, name, []⟩ : Actor) program.actors hlt
      exact Or.inl ((hperm.map Actor.id).symm.subset (List.mem_cons_of_mem _ h))
  | deletesActor front actor deleted back hedit hactors =>
      rw [hactors, List.map_append, List.map_cons, List.map_cons, List.mem_append,
        List.mem_cons, List.mem_cons] at h
      rw [hedit, List.map_append, List.map_cons, List.mem_append, List.mem_cons]
      rcases h with hfront | hactor | hdeleted | hback
      · exact Or.inl (Or.inl hfront)
      · exact Or.inl (Or.inr (Or.inl hactor))
      · exact Or.inr (hdeleted ▸ rfl)
      · exact Or.inl (Or.inr (Or.inr hback))
  | rearranges actors hperm => exact Or.inl ((hperm.map Actor.id).symm.subset h)
  | makesHandler id position trigger _ =>
      exact Or.inl ((map_id_updateHandlers _).symm ▸ h)
  | changes id change hid _ _ => exact Or.inl ((map_id_updateActor hid).symm ▸ h)

end Program

end Stagecraft
