import Mathlib.Data.List.Flatten
import Mathlib.Data.List.Nodup
import Stagecraft.Proofs.Program.Lookup
import Stagecraft.Proofs.Program.Outcome
import Stagecraft.Proofs.Program.Validation

/-!
# Edits keep a program well formed

Whatever an edit is given, a well-formed program is well formed after it, as long as the id of
what the edit makes is not in the program yet.

* `Program.Reaches` is what any number of calls leads to, each of them refused or not;
* an edit of a handler is an edit of the list of its actor's handlers, and an edit of an actor
  replaces it in its place: `Program.WellFormed.replaceActor` and
  `Program.WellFormed.updateHandlers` say what the replacement has to keep;
* one lemma for each operation, and `Program.edits_keep_wellFormed` over all of them.
-/

namespace Stagecraft

/-! ## 1. Calls -/

namespace Edit

/-- Nothing in the program has the id of what the edit makes. -/
def IsNew (edit : Edit) (fresh : Ident) (program : Program) : Prop :=
  match edit with
  | insertActor .. | appendSprite _ => ⟨fresh⟩ ∉ program.actors.map Actor.id
  | insertHandler .. => ⟨fresh⟩ ∉ program.handlerIds
  | _ => True

/-- If the edit is carried out, and so uses up an id for what it makes, that id is new. -/
def DrawsFresh (edit : Edit) (fresh : Ident) (program : Program) : Prop :=
  (edit.apply fresh program).isOk = true → edit.IsNew fresh program

end Edit

/-- What edits lead to from a program, each with an id that is new if it uses it up. -/
inductive Program.Reaches (start : Program) : Program → Prop where
  | start : Reaches start start
  | edit {program : Program} (edit : Edit) (fresh : Ident) (h : Reaches start program)
      (hfresh : edit.DrawsFresh fresh program) : Reaches start (edit.after fresh program)

/-! ## 2. Lists of actors -/

theorem AllNew.perm {κ : Type} {met keys keys' : List κ} (h : AllNew met keys)
    (hperm : keys.Perm keys') : AllNew met keys' :=
  ⟨hperm.nodup_iff.mp h.1, fun key hkey => h.2 key (hperm.symm.subset hkey)⟩

theorem AllNew.sublist {κ : Type} {met keys keys' : List κ} (h : AllNew met keys)
    (hsub : keys'.Sublist keys) : AllNew met keys' :=
  ⟨h.1.sublist hsub, fun key hkey => h.2 key (hsub.subset hkey)⟩

namespace Seen

variable {seen : Seen} {actor : Actor} {actors actors' before after : List Actor}

theorem Admits.perm (h : seen.Admits actors) (hperm : actors.Perm actors') :
    seen.Admits actors' where
  actors_new := h.actors_new.perm (hperm.map _)
  handlers_new := h.handlers_new.perm (hperm.flatMap_right _)
  names_new := h.names_new.perm (hperm.map _)
  names_allowed a ha := h.names_allowed a (hperm.symm.subset ha)
  lines_unbroken a ha := h.lines_unbroken a (hperm.symm.subset ha)

theorem Admits.sublist (h : seen.Admits actors) (hsub : actors'.Sublist actors) :
    seen.Admits actors' where
  actors_new := h.actors_new.sublist (hsub.map _)
  handlers_new := h.handlers_new.sublist (hsub.flatMap _)
  names_new := h.names_new.sublist (hsub.map _)
  names_allowed a ha := h.names_allowed a (hsub.subset ha)
  lines_unbroken a ha := h.lines_unbroken a (hsub.subset ha)

/-- An actor among others comes after what has been met with all the others. -/
theorem admits_middle : seen.Admits (before ++ actor :: after) ↔
    seen.Admits (before ++ after) ∧ (seen.after (before ++ after)).Admits [actor] := by
  have hperm : (before ++ actor :: after).Perm (before ++ after ++ [actor]) :=
    List.perm_middle.trans (List.perm_append_singleton _ _).symm
  rw [← admits_append]
  exact ⟨fun h => h.perm hperm, fun h => h.perm hperm.symm⟩

end Seen

namespace Program

/-- The stage comes first, and only there. -/
def StageFirst (actors : List Actor) : Prop :=
  ∃ stage sprites, actors = stage :: sprites ∧ stage.kind = .stage ∧
    ∀ actor ∈ sprites, actor.kind = .sprite

theorem stageFirst_iff {actors : List Actor} : StageFirst actors ↔
    actors.head?.map Actor.kind = some .stage ∧ ∀ actor ∈ actors.tail, actor.kind = .sprite := by
  cases actors with
  | nil => simp [StageFirst]
  | cons first others =>
      constructor
      · intro h
        obtain ⟨stage, sprites, heq, hstage, hsprites⟩ := h
        cases heq
        exact ⟨congrArg some hstage, hsprites⟩
      · intro h
        obtain ⟨hstage, hsprites⟩ := h
        exact ⟨first, others, rfl, Option.some.inj hstage, hsprites⟩

theorem wellFormed_iff {program : Program} : program.WellFormed ↔
    Seen.nothing.Admits program.actors ∧ StageFirst program.actors := by
  rw [wellFormed_iff_admits, stageFirst_iff]

/-- Where the stage stands is told by the kinds alone. -/
theorem StageFirst.of_kinds {actors actors' : List Actor} (h : StageFirst actors)
    (hkinds : actors'.map Actor.kind = actors.map Actor.kind) : StageFirst actors' := by
  obtain ⟨stage, sprites, rfl, hstage, hsprites⟩ := h
  obtain ⟨first, others, rfl, hfirst, hothers⟩ := List.map_eq_cons_iff.mp hkinds
  refine ⟨first, others, rfl, hfirst.trans hstage, fun actor ha => ?_⟩
  have hmem : actor.kind ∈ sprites.map Actor.kind := hothers ▸ List.mem_map_of_mem ha
  obtain ⟨sprite, hs, heq⟩ := List.mem_map.mp hmem
  exact heq.symm.trans (hsprites sprite hs)

/-! ## 3. Edits of actors -/

variable {program changed : Program} {id fresh : ActorId} {name : String} {actor actor' : Actor}
  {before after : List Actor}

theorem WellFormed.insertActor (h : program.WellFormed)
    (hfresh : fresh ∉ program.actors.map Actor.id) {index : Nat}
    (hok : program.insertActor index name fresh = .ok changed) : changed.WellFormed := by
  obtain ⟨hlt, hname, rfl⟩ := insertActor_eq_ok_iff.mp hok
  obtain ⟨hadmits, hstage⟩ := wellFormed_iff.mp h
  obtain ⟨hallowed, htaken⟩ := Name.fault?_eq_none_iff.mp hname
  refine wellFormed_iff.mpr ⟨?_, ?_⟩
  · have hnew : (Seen.nothing.after program.actors).Admits [⟨fresh, .sprite, name, []⟩] := by
      refine Seen.admits_singleton.mpr ⟨?_, ⟨hallowed, ?_⟩, allNew_nil, ?_⟩
      · exact fun hmem => hfresh (List.mem_map.mpr (Seen.mem_actors_after.mp hmem))
      · exact fun hmem => htaken (List.mem_map.mpr (Seen.mem_names_after.mp hmem))
      · exact fun _ hh => absurd hh List.not_mem_nil
    refine (Seen.admits_append.mpr ⟨hadmits, hnew⟩).perm ?_
    exact (List.perm_append_singleton _ _).trans (List.perm_insertIdx _ _ hlt).symm
  · obtain ⟨stage, sprites, heq, hfirst, hsprites⟩ := hstage
    refine ⟨stage, sprites.insertIdx index ⟨fresh, .sprite, name, []⟩, ?_, hfirst, fun a ha => ?_⟩
    · rw [heq, List.insertIdx_succ_cons]
    · rcases List.eq_or_mem_of_mem_insertIdx ha with rfl | ha
      · rfl
      · exact hsprites a ha

theorem WellFormed.deleteActor (h : program.WellFormed) {previous : ActorId}
    (hok : program.deleteActor id = .ok (changed, previous)) : changed.WellFormed := by
  obtain ⟨hne, index, hindex, rfl, -⟩ := deleteActor_eq_ok_iff.mp hok
  obtain ⟨hadmits, stage, sprites, heq, hfirst, hsprites⟩ := wellFormed_iff.mp h
  refine wellFormed_iff.mpr ⟨hadmits.sublist (List.eraseIdx_sublist _ _), ?_⟩
  obtain ⟨hlt, hfound, -⟩ := List.findIdx?_eq_some_iff_getElem.mp hindex
  cases index with
  | zero =>
      -- the first actor is the stage, which is not deleted
      have hid : program.actors[0].id = id := of_decide_eq_true hfound
      simp only [heq, List.getElem_cons_zero] at hid
      exact absurd ((stageId_eq heq).trans hid) hne
  | succ index =>
      refine ⟨stage, sprites.eraseIdx index, by rw [heq, List.eraseIdx_cons_succ], hfirst, ?_⟩
      exact fun a ha => hsprites a (List.mem_of_mem_eraseIdx ha)

/-- An actor of a well-formed program follows the rules beside the others. -/
theorem WellFormed.admits_actor (h : program.WellFormed)
    (hactors : program.actors = before ++ actor :: after) :
    (Seen.nothing.after (before ++ after)).Admits [actor] := by
  have hadmits := (wellFormed_iff.mp h).1
  rw [hactors] at hadmits
  exact (Seen.admits_middle.mp hadmits).2

/-- **An actor may be replaced** by one of its kind that follows the rules beside the others. -/
theorem WellFormed.replaceActor (h : program.WellFormed)
    (hactors : program.actors = before ++ actor :: after) (hkind : actor'.kind = actor.kind)
    (hadmits : (Seen.nothing.after (before ++ after)).Admits [actor']) :
    WellFormed ⟨before ++ actor' :: after⟩ := by
  obtain ⟨hall, hstage⟩ := wellFormed_iff.mp h
  rw [hactors] at hall hstage
  refine wellFormed_iff.mpr ⟨Seen.admits_middle.mpr ⟨(Seen.admits_middle.mp hall).1, hadmits⟩, ?_⟩
  refine hstage.of_kinds ?_
  rw [List.map_append, List.map_append, List.map_cons, List.map_cons, hkind]

theorem WellFormed.renameActor (h : program.WellFormed)
    (hok : program.renameActor id name = .ok changed) : changed.WellFormed := by
  obtain ⟨⟨actor, ha⟩, hname, rfl⟩ := renameActor_eq_ok_iff.mp hok
  obtain ⟨before, after, hactors, rfl⟩ := exists_eq_append_of_actor? ha
  obtain ⟨hallowed, htaken⟩ := Name.fault?_eq_none_iff.mp hname
  obtain ⟨hid, -, hhandlers, hlines⟩ := Seen.admits_singleton.mp (h.admits_actor hactors)
  rw [h.updateActor_eq hactors]
  refine h.replaceActor hactors rfl
    (Seen.admits_singleton.mpr ⟨hid, ⟨hallowed, fun hmem => htaken ?_⟩, hhandlers, hlines⟩)
  -- the names beside which the new one is checked are those of all other actors
  obtain ⟨other, hother, rfl⟩ := Seen.mem_names_after.mp hmem
  have hnodup := h.actors_distinct
  rw [hactors] at hnodup
  have hne := key_ne_of_split hnodup other hother
  refine List.mem_map_of_mem (List.mem_filter.mpr ⟨?_, by simpa using hne⟩)
  rw [hactors]
  exact List.perm_middle.symm.subset (List.mem_cons_of_mem _ hother)

theorem WellFormed.reorderActors (h : program.WellFormed) {order : List ActorId}
    (hok : program.reorderActors order = .ok changed) : changed.WellFormed := by
  obtain ⟨horder, hhead, rfl⟩ := reorderActors_eq_ok_iff.mp hok
  have hperm := (orderFault?_eq_none_iff h.actors_distinct).mp horder
  have harrange := arrange_perm h.actors_distinct hperm
  have hids : (arrange Actor.id program.actors order).map Actor.id = order :=
    map_arrange fun k hk => hperm.subset hk
  obtain ⟨hadmits, stage, sprites, heq, hstage, hsprites⟩ := wellFormed_iff.mp h
  refine wellFormed_iff.mpr ⟨hadmits.perm harrange.symm, ?_⟩
  cases harr : arrange Actor.id program.actors order with
  | nil =>
      rw [harr] at hids
      rw [← hids] at hhead
      cases hhead
  | cons first others =>
      rw [harr] at hids harrange
      rw [← hids, List.map_cons, List.head?_cons, stageId_eq heq] at hhead
      have hnodup : ((first :: others).map Actor.id).Nodup :=
        (harrange.map _).nodup_iff.mpr h.actors_distinct
      rw [List.map_cons, List.nodup_cons, Option.some.inj hhead] at hnodup
      rw [heq] at harrange
      have hfirst : first = stage := by
        have hmem : first ∈ stage :: sprites := harrange.subset List.mem_cons_self
        have hdistinct := h.actors_distinct
        rw [heq] at hdistinct
        exact List.inj_on_of_nodup_map hdistinct hmem List.mem_cons_self (Option.some.inj hhead)
      refine ⟨first, others, rfl, hfirst ▸ hstage, fun a ha => ?_⟩
      rcases List.mem_cons.mp (harrange.subset (List.mem_cons_of_mem first ha)) with rfl | hmem
      · exact absurd (List.mem_map_of_mem ha) hnodup.1
      · exact hsprites a hmem

/-! ## 4. Edits of handlers -/

variable {handler : HandlerId}

theorem WellFormed.nodup_handlers (h : program.WellFormed) (ha : actor ∈ program.actors) :
    (actor.handlers.map Handler.id).Nodup :=
  (List.nodup_flatMap.mp h.handlers_distinct).1 actor ha

/-- **To change a handler is to replace it in its place.** -/
theorem WellFormed.updateHandler_eq (h : program.WellFormed)
    (hactors : program.actors = before ++ actor :: after) {front back : List Handler}
    {found : Handler} (hhandlers : actor.handlers = front ++ found :: back)
    (change : Handler → Handler) :
    program.updateHandler actor.id found.id change =
      ⟨before ++ { actor with handlers := front ++ change found :: back } :: after⟩ := by
  have hmem : actor ∈ program.actors := hactors ▸ List.mem_append_right _ List.mem_cons_self
  have hnodup := h.nodup_handlers hmem
  rw [hhandlers] at hnodup
  have hreplace := map_update_split change hnodup
  rw [← hhandlers] at hreplace
  unfold Program.updateHandler Program.updateHandlers
  rw [h.updateActor_eq hactors]
  dsimp only
  rw [hreplace]

/-- **The handlers of an actor may be changed** to distinct ones that were there or are new, with
    unbroken lines. -/
theorem WellFormed.updateHandlers (h : program.WellFormed) (ha : program.actor? id = some actor)
    {change : List Handler → List Handler}
    (hnodup : ((change actor.handlers).map Handler.id).Nodup)
    (hids : ∀ handler ∈ change actor.handlers,
      handler.id ∈ actor.handlers.map Handler.id ∨ handler.id ∉ program.handlerIds)
    (hlines : ∀ handler ∈ change actor.handlers, ∀ line ∈ handler.body,
      Text.hasBreak line = false) : (program.updateHandlers id change).WellFormed := by
  obtain ⟨before, after, hactors, rfl⟩ := exists_eq_append_of_actor? ha
  obtain ⟨hid, hname, hhandlers, -⟩ := Seen.admits_singleton.mp (h.admits_actor hactors)
  unfold Program.updateHandlers
  rw [h.updateActor_eq hactors]
  refine h.replaceActor hactors rfl
    (Seen.admits_singleton.mpr ⟨hid, hname, ⟨hnodup, fun key hkey hmet => ?_⟩, hlines⟩)
  obtain ⟨changed, hchanged, rfl⟩ := List.mem_map.mp hkey
  rcases hids changed hchanged with hold | hnew
  · exact hhandlers.2 _ hold hmet
  · obtain ⟨other, hother, found, hfound, heq⟩ := Seen.mem_handlers_after.mp hmet
    refine hnew (mem_handlerIds.mpr ⟨other, ?_, found, hfound, heq⟩)
    rw [hactors]
    exact List.perm_middle.symm.subset (List.mem_cons_of_mem _ hother)

theorem WellFormed.insertHandler (h : program.WellFormed) {fresh : HandlerId}
    (hfresh : fresh ∉ program.handlerIds) {position : Option Nat} {trigger : Trigger}
    (hok : program.insertHandler id position trigger fresh = .ok changed) : changed.WellFormed := by
  obtain ⟨actor, ha, hslot, rfl⟩ := insertHandler_eq_ok_iff.mp hok
  have hmem := mem_of_actor? ha
  have hperm := List.perm_insertIdx (⟨fresh, trigger, []⟩ : Handler) actor.handlers hslot
  have hnew : fresh ∉ actor.handlers.map Handler.id := by
    intro hin
    obtain ⟨found, hfound, rfl⟩ := List.mem_map.mp hin
    exact hfresh (mem_handlerIds.mpr ⟨actor, hmem, found, hfound, rfl⟩)
  refine h.updateHandlers ha ?_ (fun found hfound => ?_) (fun found hfound => ?_)
  · refine (hperm.map _).nodup_iff.mpr (List.nodup_cons.mpr ⟨hnew, h.nodup_handlers hmem⟩)
  · rcases List.mem_cons.mp (hperm.subset hfound) with rfl | hold
    · exact Or.inr hfresh
    · exact Or.inl (List.mem_map_of_mem hold)
  · rcases List.mem_cons.mp (hperm.subset hfound) with rfl | hold
    · exact fun _ hline => absurd hline List.not_mem_nil
    · exact h.lines_unbroken actor hmem found hold

theorem WellFormed.deleteHandler (h : program.WellFormed)
    (hok : program.deleteHandler id handler = .ok changed) : changed.WellFormed := by
  obtain ⟨hthere, rfl⟩ := deleteHandler_eq_ok_iff.mp hok
  obtain ⟨actor, ha, -⟩ := missing?_eq_none_iff.mp hthere
  have hmem := mem_of_actor? ha
  have hsub : (actor.handlers.eraseP (·.id = handler)).Sublist actor.handlers :=
    List.eraseP_sublist
  refine h.updateHandlers ha ((h.nodup_handlers hmem).sublist (hsub.map _))
    (fun found hfound => Or.inl (List.mem_map_of_mem (hsub.subset hfound))) fun found hfound => ?_
  exact h.lines_unbroken actor hmem found (hsub.subset hfound)

theorem WellFormed.reorderHandlers (h : program.WellFormed) {order : List HandlerId}
    (hok : program.reorderHandlers id order = .ok changed) : changed.WellFormed := by
  obtain ⟨actor, ha, horder, rfl⟩ := reorderHandlers_eq_ok_iff.mp hok
  have hmem := mem_of_actor? ha
  have hnodup := h.nodup_handlers hmem
  have hperm := arrange_perm hnodup ((orderFault?_eq_none_iff hnodup).mp horder)
  refine h.updateHandlers ha ((hperm.map _).nodup_iff.mpr hnodup)
    (fun found hfound => Or.inl (List.mem_map_of_mem (hperm.subset hfound))) fun found hfound => ?_
  exact h.lines_unbroken actor hmem found (hperm.subset hfound)

/-- **A handler may be changed** if it keeps its id and its lines are unbroken. -/
theorem WellFormed.updateHandler (h : program.WellFormed) (ha : program.actor? id = some actor)
    {change : Handler → Handler} (hid : ∀ found, (change found).id = found.id)
    (hlines : ∀ found ∈ actor.handlers, ∀ line ∈ (change found).body,
      Text.hasBreak line = false) : (program.updateHandler id handler change).WellFormed := by
  have hmem := mem_of_actor? ha
  have hids : (actor.handlers.map fun found =>
      if found.id = handler then change found else found).map Handler.id =
        actor.handlers.map Handler.id := map_key_update hid actor.handlers handler
  refine h.updateHandlers ha (hids ▸ h.nodup_handlers hmem) (fun found hfound => Or.inl ?_)
    fun found hfound => ?_
  · exact hids ▸ List.mem_map_of_mem hfound
  · obtain ⟨old, hold, rfl⟩ := List.mem_map.mp hfound
    split
    · exact hlines old hold
    · exact h.lines_unbroken actor hmem old hold

theorem WellFormed.setBody (h : program.WellFormed) {lines : List String}
    (hok : program.setBody id handler lines = .ok changed) : changed.WellFormed := by
  obtain ⟨hthere, hlines, rfl⟩ := setBody_eq_ok_iff.mp hok
  obtain ⟨actor, ha, -⟩ := missing?_eq_none_iff.mp hthere
  exact h.updateHandler ha (fun _ => rfl) fun _ _ => hlines

theorem WellFormed.setTrigger (h : program.WellFormed) {trigger : Trigger}
    (hok : program.setTrigger id handler trigger = .ok changed) : changed.WellFormed := by
  obtain ⟨hthere, rfl⟩ := setTrigger_eq_ok_iff.mp hok
  obtain ⟨actor, ha, -⟩ := missing?_eq_none_iff.mp hthere
  exact h.updateHandler ha (fun _ => rfl) (h.lines_unbroken actor (mem_of_actor? ha))

/-! ## 5. All edits -/

/-- **A call keeps a program well formed.** -/
theorem WellFormed.apply (h : program.WellFormed) {edit : Edit} {fresh : Ident} {reply : Reply}
    (hfresh : edit.IsNew fresh program)
    (hok : edit.apply fresh program = .ok (changed, reply)) : changed.WellFormed := by
  rw [Edit.apply_eq_result] at hok
  cases edit <;> obtain ⟨_, hmade, heq⟩ := Except.map_eq_ok_iff.mp hok <;> cases heq
  case insertActor => exact h.insertActor hfresh hmade
  case appendSprite => exact h.insertActor hfresh hmade
  case deleteActor => exact h.deleteActor hmade
  case renameActor => exact h.renameActor hmade
  case reorderActors => exact h.reorderActors hmade
  case insertHandler => exact h.insertHandler hfresh hmade
  case deleteHandler => exact h.deleteHandler hmade
  case reorderHandlers => exact h.reorderHandlers hmade
  case setBody => exact h.setBody hmade
  case setBodyText => exact h.setBody hmade
  case setTrigger => exact h.setTrigger hmade

theorem WellFormed.edited (h : program.WellFormed) {edit : Edit} {fresh : Ident}
    (hfresh : edit.DrawsFresh fresh program) : (edit.after fresh program).WellFormed := by
  rw [Edit.after_eq]
  cases hok : edit.apply fresh program with
  | error fault => exact h
  | ok result => exact h.apply (hfresh (by rw [hok]; rfl)) hok

/-- **So does any number of calls.** -/
theorem Reaches.wellFormed {start : Program} (h : start.Reaches program)
    (hstart : start.WellFormed) : program.WellFormed := by
  induction h with
  | start => exact hstart
  | edit edit fresh _ hfresh ih => exact ih.edited hfresh

theorem wellFormed_ofStage (hok : ofStage name fresh = .ok changed) : changed.WellFormed := by
  obtain ⟨hname, rfl⟩ := ofStage_eq_ok_iff.mp hok
  obtain ⟨hallowed, -⟩ := Name.fault?_eq_none_iff.mp hname
  refine wellFormed_iff.mpr ⟨Seen.admits_singleton.mpr ⟨List.not_mem_nil,
    ⟨hallowed, List.not_mem_nil⟩, allNew_nil, fun _ hh => absurd hh List.not_mem_nil⟩, ?_⟩
  exact ⟨_, [], rfl, rfl, fun _ ha => absurd ha List.not_mem_nil⟩

/-- **Edits keep programs well formed, and the check accepts what they lead to**: one call on a
    well-formed program, refused or not, and any number of calls on a new program or on one that
    passed the check. -/
theorem edits_keep_wellFormed :
    (∀ (program : Program) (edit : Edit) (fresh : Ident), program.WellFormed →
      edit.DrawsFresh fresh program →
        (edit.after fresh program).WellFormed ∧ (edit.after fresh program).validate = .ok ()) ∧
    (∀ (name : String) (id : ActorId) (start program : Program), ofStage name id = .ok start →
      start.Reaches program → program.WellFormed ∧ program.validate = .ok ()) ∧
    (∀ start program : Program, start.validate = .ok () → start.Reaches program →
      program.WellFormed ∧ program.validate = .ok ()) := by
  have hboth : ∀ program : Program, program.WellFormed →
      program.WellFormed ∧ program.validate = .ok () :=
    fun _ h => ⟨h, validate_eq_ok_iff.mpr h⟩
  refine ⟨fun program edit fresh h hfresh => hboth _ (h.edited hfresh), ?_, ?_⟩
  · exact fun name id start program hnew h => hboth _ (h.wellFormed (wellFormed_ofStage hnew))
  · exact fun start program hvalid h => hboth _ (h.wellFormed (validate_eq_ok_iff.mp hvalid))

/-- A dog behind the cat, under an id that the two before it do not have. -/
theorem wellFormed_dog_behind_cat : catOnStage.WellFormed ∧
    (Edit.insertActor 1 "Dog").DrawsFresh 3 catOnStage ∧
    ((Edit.insertActor 1 "Dog").after 3 catOnStage).WellFormed := by
  have h : catOnStage.WellFormed := validate_eq_ok_iff.mp validate_catOnStage
  have hfresh : (Edit.insertActor 1 "Dog").DrawsFresh 3 catOnStage := by
    intro _ hmem
    exact absurd hmem (by decide)
  exact ⟨h, hfresh, (edits_keep_wellFormed.1 _ _ _ h hfresh).1⟩

end Program

end Stagecraft
