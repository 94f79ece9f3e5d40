import Stagecraft.Proofs.Flattening.Splice
import Stagecraft.Proofs.Program.History
import Stagecraft.Proofs.Program.Reordering

/-!
# Edits touch only what they address

What each edit does is said by taking the lists apart at the place where it does it. All that stands
before and behind that place is then the same before and after.

* `Edit.Touches` lists the edits with what they do, and `Program.WellFormed.touches` says that it
  is what they do;
* `Edit.sparesActor` and `Edit.sparesHandler`: the edit is not about that actor or that handler, and
  `Edit.Keeps`: what it is not about is there as it was and in the order in which it was;
* `Edit.Touches.keeps` leads from one to the other, with one case for each edit, and
  `Program.WellFormed.kept_by_run` from there to any number of edits;
* `Program.edits_touch_what_they_address` is about all edits of a program, and about handlers that
  are looked for under another actor than their own.
-/

namespace Stagecraft

/-! ## 1. What an edit does -/

namespace Program

/-- The changed program has another actor in the place of one. -/
def Replaces (program : Program) (actor actor' : Actor) (changed : Program) : Prop :=
  ∃ before after, program.actors = before ++ actor :: after ∧
    changed = ⟨before ++ actor' :: after⟩

/-- The changed program has another handler in the place of one, in the same actor. -/
def ReplacesHandler (program : Program) (owner : ActorId) (found found' : Handler)
    (changed : Program) : Prop :=
  ∃ (actor : Actor) (front back : List Handler), actor.id = owner ∧
    actor.handlers = front ++ found :: back ∧
    program.Replaces actor { actor with handlers := front ++ found' :: back } changed

end Program

/-- **What each edit does** to a program, and what it answers. An element that is put in stands
    between what stood together before, and one that is taken out leaves the others together. -/
inductive Edit.Touches (fresh : Ident) (program : Program) : Edit → Program → Reply → Prop where
  /-- The new sprite stands directly behind the actor at the index. -/
  | insertActor (index : Nat) (name : String) (front back : List Actor)
      (hactors : program.actors = front ++ back) (hindex : front.length = index + 1) :
      Touches fresh program (.insertActor index name)
        ⟨front ++ ⟨⟨fresh⟩, .sprite, name, []⟩ :: back⟩ (.actor ⟨fresh⟩)
  | appendSprite (name : String) :
      Touches fresh program (.appendSprite name)
        ⟨program.actors ++ [⟨⟨fresh⟩, .sprite, name, []⟩]⟩ (.actor ⟨fresh⟩)
  /-- The answer is the actor directly in front of the one that goes. -/
  | deleteActor (front : List Actor) (previous deleted : Actor) (back : List Actor)
      (hactors : program.actors = front ++ previous :: deleted :: back) :
      Touches fresh program (.deleteActor deleted.id) ⟨front ++ previous :: back⟩
        (.actor previous.id)
  | renameActor (actor : Actor) (name : String) (changed : Program)
      (h : program.Replaces actor { actor with name := name } changed) :
      Touches fresh program (.renameActor actor.id name) changed .done
  | reorderActors (order : List ActorId) (actors : List Actor)
      (h : Reordered Actor.id program.actors order actors) :
      Touches fresh program (.reorderActors order) ⟨actors⟩ .done
  /-- The new handler stands in front, or directly behind the handler at the index. -/
  | insertHandler (actor : Actor) (position : Option Nat) (event : Trigger)
      (front back : List Handler) (changed : Program) (hhandlers : actor.handlers = front ++ back)
      (hslot : front.length = slot position)
      (h : program.Replaces actor
        { actor with handlers := front ++ ⟨⟨fresh⟩, event, []⟩ :: back } changed) :
      Touches fresh program (.insertHandler actor.id position event) changed (.handler ⟨fresh⟩)
  | deleteHandler (actor : Actor) (deleted : Handler) (front back : List Handler)
      (changed : Program) (hhandlers : actor.handlers = front ++ deleted :: back)
      (h : program.Replaces actor { actor with handlers := front ++ back } changed) :
      Touches fresh program (.deleteHandler actor.id deleted.id) changed .done
  | reorderHandlers (actor : Actor) (order : List HandlerId) (handlers : List Handler)
      (changed : Program) (hreordered : Reordered Handler.id actor.handlers order handlers)
      (h : program.Replaces actor { actor with handlers := handlers } changed) :
      Touches fresh program (.reorderHandlers actor.id order) changed .done
  | setBody (owner : ActorId) (found : Handler) (lines : List String) (changed : Program)
      (h : program.ReplacesHandler owner found { found with body := lines } changed) :
      Touches fresh program (.setBody owner found.id lines) changed .done
  | setBodyText (owner : ActorId) (found : Handler) (text : String) (changed : Program)
      (h : program.ReplacesHandler owner found { found with body := Text.lines text } changed) :
      Touches fresh program (.setBodyText owner found.id text) changed .done
  | setTrigger (owner : ActorId) (found : Handler) (event : Trigger) (changed : Program)
      (h : program.ReplacesHandler owner found { found with trigger := event } changed) :
      Touches fresh program (.setTrigger owner found.id event) changed .done

namespace Program

variable {program changed : Program} {id owner : ActorId} {handler : HandlerId} {actor : Actor}
  {edit : Edit} {fresh : Ident} {reply : Reply}

theorem WellFormed.replaces_updateActor (h : program.WellFormed)
    (ha : program.actor? id = some actor) (change : Actor → Actor) :
    program.Replaces actor (change actor) (program.updateActor id change) := by
  obtain ⟨before, after, hactors, rfl⟩ := exists_eq_append_of_actor? ha
  exact ⟨before, after, hactors, h.updateActor_eq hactors change⟩

theorem WellFormed.replaces_updateHandlers (h : program.WellFormed)
    (ha : program.actor? id = some actor) (change : List Handler → List Handler) :
    program.Replaces actor { actor with handlers := change actor.handlers }
      (program.updateHandlers id change) :=
  h.replaces_updateActor ha _

/-- A handler that is there is changed in its place. -/
theorem WellFormed.replacesHandler (h : program.WellFormed)
    (hthere : program.missing? owner handler = none) (change : Handler → Handler) :
    ∃ found : Handler, found.id = handler ∧ program.ReplacesHandler owner found (change found)
      (program.updateHandler owner handler change) := by
  obtain ⟨actor, ha, found, hfound⟩ := missing?_eq_none_iff.mp hthere
  obtain ⟨front, back, hhandlers, rfl⟩ := exists_eq_append_of_find? hfound
  obtain ⟨before, after, hactors, rfl⟩ := exists_eq_append_of_actor? ha
  exact ⟨found, rfl, actor, front, back, rfl, hhandlers, before, after, hactors,
    h.updateHandler_eq hactors hhandlers change⟩

/-- **That is what each edit does.** -/
theorem WellFormed.touches (h : program.WellFormed)
    (hok : edit.apply fresh program = .ok (changed, reply)) :
    edit.Touches fresh program changed reply := by
  rw [Edit.apply_eq_result] at hok
  cases edit <;> obtain ⟨_, hmade, heq⟩ := Except.map_eq_ok_iff.mp hok <;> cases heq
  case insertActor index name =>
      obtain ⟨hlt, -, rfl⟩ := insertActor_eq_ok_iff.mp hmade
      obtain ⟨front, back, hactors, hindex, hput⟩ :=
        exists_eq_append_of_insertIdx ⟨⟨fresh⟩, .sprite, name, []⟩ (Nat.succ_le_of_lt hlt)
      rw [hput]
      exact .insertActor index name front back hactors hindex
  case appendSprite name =>
      obtain ⟨hlt, -, rfl⟩ := insertActor_eq_ok_iff.mp hmade
      rw [Nat.sub_add_cancel (Nat.zero_lt_of_lt hlt), List.insertIdx_length_self]
      exact .appendSprite name
  case deleteActor =>
      obtain ⟨front, previous, deleted, back, hactors, hprevious, rfl, hchanged⟩ :=
        exists_split_of_deleteActor hmade
      rw [hchanged, ← hprevious]
      exact .deleteActor front previous deleted back hactors
  case renameActor name =>
      obtain ⟨⟨actor, ha⟩, -, rfl⟩ := renameActor_eq_ok_iff.mp hmade
      have hreplaces := h.replaces_updateActor ha fun a => { a with name := name }
      obtain ⟨_, _, -, rfl⟩ := exists_eq_append_of_actor? ha
      exact .renameActor actor name _ hreplaces
  case reorderActors order =>
      obtain ⟨horder, -, rfl⟩ := reorderActors_eq_ok_iff.mp hmade
      have hperm := (orderFault?_eq_none_iff h.actors_distinct).mp horder
      exact .reorderActors order _ (reordered_arrange h.actors_distinct hperm)
  case insertHandler position event =>
      obtain ⟨actor, ha, hslot, rfl⟩ := insertHandler_eq_ok_iff.mp hmade
      obtain ⟨front, back, hhandlers, hlength, hput⟩ :=
        exists_eq_append_of_insertIdx ⟨⟨fresh⟩, event, []⟩ hslot
      have hreplaces :=
        h.replaces_updateHandlers ha (·.insertIdx (slot position) ⟨⟨fresh⟩, event, []⟩)
      rw [hput] at hreplaces
      obtain ⟨_, _, -, rfl⟩ := exists_eq_append_of_actor? ha
      exact .insertHandler actor position event front back _ hhandlers hlength hreplaces
  case deleteHandler handler =>
      obtain ⟨hthere, rfl⟩ := deleteHandler_eq_ok_iff.mp hmade
      obtain ⟨actor, ha, deleted, hfound⟩ := missing?_eq_none_iff.mp hthere
      have hreplaces := h.replaces_updateHandlers ha (·.eraseP (·.id = handler))
      obtain ⟨hid, front, back, hhandlers, hfront⟩ := List.find?_eq_some_iff_append.mp hfound
      obtain rfl : deleted.id = handler := of_decide_eq_true hid
      have herase : actor.handlers.eraseP (·.id = deleted.id) = front ++ back := by
        rw [hhandlers, List.eraseP_append_right _ (by simpa using hfront),
          List.eraseP_cons_of_pos (by simp)]
      rw [herase] at hreplaces
      obtain ⟨_, _, -, rfl⟩ := exists_eq_append_of_actor? ha
      exact .deleteHandler actor deleted front back _ hhandlers hreplaces
  case reorderHandlers order =>
      obtain ⟨actor, ha, horder, rfl⟩ := reorderHandlers_eq_ok_iff.mp hmade
      have hnodup := h.nodup_handlers (mem_of_actor? ha)
      have hperm := (orderFault?_eq_none_iff hnodup).mp horder
      have hreplaces := h.replaces_updateHandlers ha (arrange Handler.id · order)
      obtain ⟨_, _, -, rfl⟩ := exists_eq_append_of_actor? ha
      exact .reorderHandlers actor order _ _ (reordered_arrange hnodup hperm) hreplaces
  case setBody owner handler lines =>
      obtain ⟨hthere, -, rfl⟩ := setBody_eq_ok_iff.mp hmade
      obtain ⟨found, rfl, hreplaces⟩ :=
        h.replacesHandler hthere fun old => { old with body := lines }
      exact .setBody owner found lines _ hreplaces
  case setBodyText owner handler text =>
      obtain ⟨hthere, -, rfl⟩ := setBody_eq_ok_iff.mp hmade
      obtain ⟨found, rfl, hreplaces⟩ :=
        h.replacesHandler hthere fun old => { old with body := Text.lines text }
      exact .setBodyText owner found text _ hreplaces
  case setTrigger owner handler event =>
      obtain ⟨hthere, rfl⟩ := setTrigger_eq_ok_iff.mp hmade
      obtain ⟨found, rfl, hreplaces⟩ :=
        h.replacesHandler hthere fun old => { old with trigger := event }
      exact .setTrigger owner found event _ hreplaces

end Program

/-! ## 2. What an edit is not about -/

namespace Edit

/-- The handler that the edit names, with the actor under which it names it. -/
def named? : Edit → Option (ActorId × HandlerId)
  | deleteHandler actor handler | setBody actor handler _ | setBodyText actor handler _
  | setTrigger actor handler _ => some (actor, handler)
  | _ => none

/-- The edit neither takes the actor out nor renames it. -/
def sparesActor : Edit → ActorId → Bool
  | deleteActor actor, id | renameActor actor _, id => actor ≠ id
  | _, _ => true

/-- The edit neither takes the handler out, alone or with its actor, nor writes into it. -/
def sparesHandler (edit : Edit) (owner : ActorId) (handler : HandlerId) : Bool :=
  edit.named? ≠ some (owner, handler) ∧ edit ≠ .deleteActor owner

end Edit

/-- What an actor is beside its handlers. -/
def Actor.face (actor : Actor) : ActorId × ActorKind × String :=
  (actor.id, actor.kind, actor.name)

namespace Program

/-- The actors in display order, without their handlers. -/
def faces (program : Program) : List (ActorId × ActorKind × String) :=
  program.actors.map Actor.face

/-- The actors that an edit is not about. -/
def facesBeside (program : Program) (edit : Edit) : List (ActorId × ActorKind × String) :=
  program.faces.filter fun face => edit.sparesActor face.1

/-- The handlers that an edit is not about, with their owners. -/
def sectionsBeside (program : Program) (edit : Edit) : List (ActorId × Handler) :=
  program.sections.filter fun place => edit.sparesHandler place.1 place.2.id

/-- The handlers of one owner among others, in their order. -/
def ofOwner (owner : ActorId) (sections : List (ActorId × Handler)) : List (ActorId × Handler) :=
  sections.filter fun place => place.1 = owner

end Program

/-- **What an edit is not about is kept**: the other actors with their ids, kinds and names, and the
    other handlers with their owners, ids, triggers and bodies, each as often as before. They are in
    the order in which they were, unless the edit is there to rearrange them. -/
structure Edit.Keeps (edit : Edit) (program changed : Program) : Prop where
  actors : (program.facesBeside edit).Subperm changed.faces
  handlers : (program.sectionsBeside edit).Subperm changed.sections
  actor_order : (∀ order, edit ≠ .reorderActors order) →
    (program.facesBeside edit).Sublist changed.faces
  handler_order : ∀ owner, (∀ order, edit ≠ .reorderHandlers owner order) →
    (Program.ofOwner owner (program.sectionsBeside edit)).Sublist
      (Program.ofOwner owner changed.sections)

namespace Program

variable {program changed : Program} {id owner : ActorId} {handler : HandlerId}
  {actor actor' : Actor} {edit : Edit} {fresh : Ident} {reply : Reply}

/-- Where nothing is rearranged, what is kept stands in one list in its order. -/
theorem keeps_of_sublists (hfaces : (program.facesBeside edit).Sublist changed.faces)
    (hsections : (program.sectionsBeside edit).Sublist changed.sections) :
    edit.Keeps program changed where
  actors := hfaces.subperm
  handlers := hsections.subperm
  actor_order _ := hfaces
  handler_order _ _ := hsections.filter _

/-- What stands before and behind a place is kept, if nothing in that place is to be kept. -/
theorem filter_splice {α : Type} (keep : α → Bool) {part : List α}
    (h : ∀ x ∈ part, keep x = false) (before part' after : List α) :
    ((before ++ (part ++ after)).filter keep).Sublist (before ++ (part' ++ after)) := by
  have hnone : part.filter keep = [] :=
    List.filter_eq_nil_iff.mpr fun x hx => by simp [h x hx]
  rw [List.filter_append, List.filter_append, hnone]
  exact List.filter_sublist.append ((List.nil_sublist part').append List.filter_sublist)

theorem sections_append (front back : List Actor) :
    sections ⟨front ++ back⟩ = sections ⟨front⟩ ++ sections ⟨back⟩ :=
  List.flatMap_append ..

/-- The actor in the place of another one shows in that place only. -/
theorem Replaces.exists_faces (h : program.Replaces actor actor' changed) : ∃ before after,
    program.faces = before ++ ([actor.face] ++ after) ∧
      changed.faces = before ++ ([actor'.face] ++ after) := by
  obtain ⟨before, after, hactors, rfl⟩ := h
  refine ⟨before.map Actor.face, after.map Actor.face, ?_, ?_⟩
  · rw [faces, hactors, List.map_append, List.map_cons, List.singleton_append]
  · rw [faces, List.map_append, List.map_cons, List.singleton_append]

theorem Replaces.exists_sections (h : program.Replaces actor actor' changed) : ∃ before after,
    program.sections = before ++ (actor.handlers.map (actor.id, ·) ++ after) ∧
      changed.sections = before ++ (actor'.handlers.map (actor'.id, ·) ++ after) := by
  obtain ⟨before, after, hactors, rfl⟩ := h
  refine ⟨sections ⟨before⟩, sections ⟨after⟩, ?_, sections_split ..⟩
  rw [← sections_split, ← hactors]

/-- Where only handlers are replaced, the actors stay. -/
theorem Replaces.faces_eq (h : program.Replaces actor actor' changed)
    (hface : actor'.face = actor.face) : changed.faces = program.faces := by
  obtain ⟨before, after, hold, hnew⟩ := h.exists_faces
  rw [hold, hnew, hface]

/-- **Handlers of one actor are replaced in their place**: if none of those that go is one that the
    edit spares, all that it spares is kept. -/
theorem Replaces.keeps (part : List Handler) {front part' back : List Handler}
    (h : program.Replaces actor { actor with handlers := front ++ (part' ++ back) } changed)
    (hhandlers : actor.handlers = front ++ (part ++ back))
    (hpart : ∀ found ∈ part, edit.sparesHandler actor.id found.id = false) :
    edit.Keeps program changed := by
  refine keeps_of_sublists ?_ ?_
  · unfold facesBeside
    rw [h.faces_eq rfl]
    exact List.filter_sublist
  · obtain ⟨before, after, hold, hnew⟩ := h.exists_sections
    have hnone : ∀ place ∈ part.map (actor.id, ·),
        edit.sparesHandler place.1 place.2.id = false := by simpa using hpart
    have hsplice := filter_splice (fun place => edit.sparesHandler place.1 place.2.id) hnone
      (before ++ front.map (actor.id, ·)) (part'.map (actor.id, ·))
      (back.map (actor.id, ·) ++ after)
    unfold sectionsBeside
    rw [hold, hnew, hhandlers]
    simpa only [List.map_append, List.append_assoc] using hsplice

theorem ReplacesHandler.keeps {found found' : Handler}
    (h : program.ReplacesHandler owner found found' changed)
    (hspares : edit.sparesHandler owner found.id = false) : edit.Keeps program changed := by
  obtain ⟨actor, front, back, rfl, hhandlers, hreplaces⟩ := h
  have hput : front ++ found' :: back = front ++ ([found'] ++ back) := rfl
  rw [hput] at hreplaces
  exact hreplaces.keeps [found] hhandlers (by simpa using hspares)

/-! ## 3. What is kept -/

@[simp] theorem ofOwner_append (first second : List (ActorId × Handler)) :
    ofOwner owner (first ++ second) = ofOwner owner first ++ ofOwner owner second :=
  List.filter_append ..

@[simp] theorem ofOwner_self (handlers : List Handler) :
    ofOwner owner (handlers.map (owner, ·)) = handlers.map (owner, ·) := by
  simp [ofOwner]

theorem ofOwner_other (hne : id ≠ owner) (handlers : List Handler) :
    ofOwner owner (handlers.map (id, ·)) = [] := by
  simp [ofOwner, hne]

/-- The handlers of an owner are those of the actor with that id. -/
theorem ofOwner_sections (owner : ActorId) : ∀ {actors : List Actor},
    (actors.map Actor.id).Nodup → ofOwner owner (sections ⟨actors⟩) =
      ((actors.find? (·.id = owner)).map fun actor => actor.handlers.map (owner, ·)).getD []
  | [], _ => rfl
  | actor :: actors, h => by
      rw [List.map_cons, List.nodup_cons] at h
      have hsplit : sections ⟨actor :: actors⟩ =
          actor.handlers.map (actor.id, ·) ++ sections ⟨actors⟩ := rfl
      rw [hsplit, ofOwner_append, ofOwner_sections owner h.2]
      by_cases hid : actor.id = owner
      · -- no actor behind this one has its id, so none of theirs are the owner's
        have hnone : actors.find? (·.id = owner) = none := by
          refine List.find?_eq_none.mpr fun other hother heq => h.1 ?_
          rw [hid, ← of_decide_eq_true heq]
          exact List.mem_map_of_mem hother
        have hfound : (actor :: actors).find? (·.id = owner) = some actor :=
          List.find?_cons_of_pos (decide_eq_true hid)
        rw [hfound, hnone, hid, ofOwner_self]
        exact List.append_nil _
      · rw [ofOwner_other hid, List.find?_cons_of_neg (by simpa using hid), List.nil_append]

/-- An actor without handlers is put in. -/
theorem keeps_of_put_in {front back : List Actor} {made : Actor}
    (hactors : program.actors = front ++ back) (hmade : made.handlers = []) :
    edit.Keeps program ⟨front ++ made :: back⟩ := by
  refine keeps_of_sublists (List.filter_sublist.trans ?_) (List.filter_sublist.trans ?_)
  · rw [faces, hactors]
    exact ((List.sublist_cons_self made back).append_left front).map Actor.face
  · have hsections : program.sections = sections ⟨front ++ back⟩ := by rw [← hactors]
    rw [hsections, sections_append, sections_split, hmade]
    exact List.Sublist.refl _

/-- An actor is taken out with its handlers. -/
theorem keeps_of_taken_out {front back : List Actor} {deleted : Actor}
    (hactors : program.actors = front ++ deleted :: back) :
    (Edit.deleteActor deleted.id).Keeps program ⟨front ++ back⟩ := by
  refine keeps_of_sublists ?_ ?_
  · unfold facesBeside faces
    rw [hactors, List.map_append, List.map_append, List.map_cons, ← List.singleton_append]
    -- the deleted actor is the only one in its place, and the edit is about it
    refine filter_splice _ ?_ _ [] _
    simp [Edit.sparesActor, Actor.face]
  · have hsections : program.sections = sections ⟨front ++ deleted :: back⟩ := by rw [← hactors]
    unfold sectionsBeside
    rw [hsections, sections_split, sections_append]
    refine filter_splice _ ?_ _ [] _
    simp [Edit.sparesHandler]

/-- An actor gets another name. -/
theorem Replaces.keeps_of_renamed {name : String}
    (h : program.Replaces actor { actor with name := name } changed) :
    (Edit.renameActor actor.id name).Keeps program changed := by
  refine keeps_of_sublists ?_ ?_
  · obtain ⟨before, after, hold, hnew⟩ := h.exists_faces
    unfold facesBeside
    rw [hold, hnew]
    refine filter_splice _ ?_ _ _ _
    simp [Edit.sparesActor, Actor.face]
  · obtain ⟨before, after, hold, hnew⟩ := h.exists_sections
    unfold sectionsBeside
    rw [hold, hnew]
    exact List.filter_sublist

/-- Rearranged actors have the handlers that they had, in their order. -/
theorem keeps_of_reordered_actors (hnodup : (program.actors.map Actor.id).Nodup)
    {order : List ActorId} {actors : List Actor}
    (h : Reordered Actor.id program.actors order actors) :
    (Edit.reorderActors order).Keeps program ⟨actors⟩ where
  actors := List.filter_sublist.subperm.trans (h.same_items.map Actor.face).symm.subperm
  handlers := List.filter_sublist.subperm.trans (h.same_items.flatMap_right _).symm.subperm
  actor_order hne := absurd rfl (hne order)
  handler_order owner _ := by
    have hnodup' : (actors.map Actor.id).Nodup := (h.same_items.map _).nodup_iff.mpr hnodup
    have hsame : ofOwner owner (sections ⟨actors⟩) = ofOwner owner program.sections := by
      rw [ofOwner_sections owner hnodup', h.same_by_key owner, ← ofOwner_sections owner hnodup]
    rw [hsame]
    exact List.filter_sublist.filter _

/-- Rearranged handlers of an actor are those that it had, and no others are moved. -/
theorem Replaces.keeps_of_reordered {order : List HandlerId} {handlers : List Handler}
    (h : program.Replaces actor { actor with handlers := handlers } changed)
    (hreordered : Reordered Handler.id actor.handlers order handlers) :
    (Edit.reorderHandlers actor.id order).Keeps program changed := by
  have hfaces : (program.facesBeside (.reorderHandlers actor.id order)).Sublist changed.faces := by
    unfold facesBeside
    rw [h.faces_eq rfl]
    exact List.filter_sublist
  obtain ⟨before, after, hold, hnew⟩ := h.exists_sections
  have hperm : changed.sections.Perm program.sections := by
    rw [hold, hnew]
    exact ((hreordered.same_items.map _).append_right after).append_left before
  refine ⟨hfaces.subperm, List.filter_sublist.subperm.trans hperm.symm.subperm, fun _ => hfaces,
    fun owner hne => ?_⟩
  -- the handlers of another owner are all before the place or behind it
  have howner : actor.id ≠ owner := by
    rintro rfl
    exact hne order rfl
  have hsame : ofOwner owner changed.sections = ofOwner owner program.sections := by
    rw [hold, hnew]
    simp only [ofOwner_append, ofOwner_other howner]
  rw [hsame]
  exact List.filter_sublist.filter _

end Program

variable {program changed : Program} {edit : Edit} {fresh : Ident} {reply : Reply}

open Program in
/-- **What an edit is not about is kept**, by what the edit does. -/
theorem Edit.Touches.keeps (hnodup : (program.actors.map Actor.id).Nodup)
    (h : edit.Touches fresh program changed reply) : edit.Keeps program changed := by
  cases h with
  | insertActor index name front back hactors _ =>
      exact keeps_of_put_in hactors rfl
  | appendSprite name => exact keeps_of_put_in (List.append_nil _).symm rfl
  | deleteActor front previous deleted back hactors =>
      -- the previous actor is one of those in front of the place
      have hfront : ∀ rest, front ++ previous :: rest = front ++ [previous] ++ rest := by simp
      rw [hfront] at hactors ⊢
      exact keeps_of_taken_out hactors
  | renameActor actor name _ h =>
      exact h.keeps_of_renamed
  | reorderActors order actors h => exact keeps_of_reordered_actors hnodup h
  | insertHandler actor position event front back _ hhandlers _ h =>
      have hput : front ++ ⟨⟨fresh⟩, event, []⟩ :: back =
        front ++ ([⟨⟨fresh⟩, event, []⟩] ++ back) := rfl
      rw [hput] at h
      exact h.keeps [] hhandlers fun _ hnone => absurd hnone List.not_mem_nil
  | deleteHandler actor deleted front back _ hhandlers h =>
      have hput : front ++ back = front ++ ([] ++ back) := rfl
      rw [hput] at h
      exact h.keeps [deleted] hhandlers (by simp [Edit.sparesHandler, named?])
  | reorderHandlers actor order handlers _ hreordered h => exact h.keeps_of_reordered hreordered
  | setBody owner found lines _ h => exact h.keeps (by simp [Edit.sparesHandler, named?])
  | setBodyText owner found text _ h => exact h.keeps (by simp [Edit.sparesHandler, named?])
  | setTrigger owner found event _ h => exact h.keeps (by simp [Edit.sparesHandler, named?])

namespace Program

variable {owner other : ActorId} {handler : HandlerId}

/-! ## 4. Runs -/

/-- A call keeps what the edit is not about, also if it is refused. -/
theorem WellFormed.keeps_after (h : program.WellFormed) (edit : Edit) (fresh : Ident) :
    edit.Keeps program (edit.after fresh program) := by
  rw [Edit.after_eq]
  cases hok : edit.apply fresh program with
  | error fault => exact keeps_of_sublists List.filter_sublist List.filter_sublist
  | ok result => exact (h.touches hok).keeps h.actors_distinct

/-- **A run keeps what none of its edits is about**: the actor under its name, and the handler with
    its trigger, its body and its owner, by induction on the edits. -/
theorem WellFormed.kept_by_run (h : program.WellFormed) {met : List Program}
    {edits : List (Edit × Ident)} (hnew : NeverReuses met program edits) :
    (∀ face ∈ program.faces, (∀ edit ∈ edits.map Prod.fst, edit.sparesActor face.1 = true) →
      face ∈ (program.edited edits).faces) ∧
    ∀ place ∈ program.sections,
      (∀ edit ∈ edits.map Prod.fst, edit.sparesHandler place.1 place.2.id = true) →
        place ∈ (program.edited edits).sections := by
  induction edits generalizing met program with
  | nil => exact ⟨fun _ hface _ => hface, fun _ hplace _ => hplace⟩
  | cons first more ih =>
      obtain ⟨edit, fresh⟩ := first
      obtain ⟨hdraws, hmore⟩ := hnew
      have hkeeps := h.keeps_after edit fresh
      have hafter : (edit.after fresh program).WellFormed :=
        h.edited fun hok => hdraws hok program List.mem_cons_self
      obtain ⟨hfaces, hsections⟩ := ih hafter hmore
      refine ⟨fun face hface hspares => ?_, fun place hplace hspares => ?_⟩
      · obtain ⟨hfirst, hspares⟩ := List.forall_mem_cons.mp hspares
        have hthere := hkeeps.actors.subset (List.mem_filter.mpr ⟨hface, hfirst⟩)
        exact hfaces face hthere hspares
      · obtain ⟨hfirst, hspares⟩ := List.forall_mem_cons.mp hspares
        have hthere := hkeeps.handlers.subset (List.mem_filter.mpr ⟨hplace, hfirst⟩)
        exact hsections place hthere hspares

/-! ## 5. Handlers under another actor -/

/-- A handler that is another actor's is missing. -/
theorem WellFormed.missing?_of_owns (h : program.WellFormed)
    (howner : owner ∈ program.actors.map Actor.id) (hother : program.Owns other handler)
    (hne : other ≠ owner) :
    program.missing? owner handler = some (.unknownHandler owner handler) := by
  obtain ⟨actor, ha, rfl⟩ := List.mem_map.mp howner
  have hnone : actor.handler? handler = none := by
    refine List.find?_eq_none.mpr fun found hfound hid => hne ?_
    exact h.owner_unique hother
      ⟨actor, ha, rfl, List.mem_map.mpr ⟨found, hfound, of_decide_eq_true hid⟩⟩
  unfold missing?
  rw [h.actor?_eq_some ha]
  simp [hnone]

/-- An edit that names a missing handler is refused for that. -/
theorem apply_of_missing? (hnamed : edit.named? = some (owner, handler)) {fault : EditFault}
    (hmissing : program.missing? owner handler = some fault) (fresh : Ident) :
    edit.apply fresh program = .error fault := by
  rw [Edit.apply_eq_result]
  cases edit <;> cases hnamed
  case deleteHandler => simp [Edit.result, Program.deleteHandler, hmissing]
  case setBody => simp [Edit.result, Program.setBody, hmissing]
  case setBodyText => simp [Edit.result, Program.setBodyText, Program.setBody, hmissing]
  case setTrigger => simp [Edit.result, Program.setTrigger, hmissing]

/-! ## 6. All edits -/

/-- **Every edit touches only what it addresses.** In a program that passed the check, an edit that
    succeeds does what is listed for it, at the one place that it addresses, and all other actors
    and handlers are there as they were and in the order in which they were, unless the edit is
    there to rearrange them. An edit that names a handler of another actor than the one under which
    it is looked for is refused for that, and changes nothing. -/
theorem edits_touch_what_they_address (hvalid : program.validate = .ok ()) :
    (∀ (edit : Edit) (fresh : Ident) (changed : Program) (reply : Reply),
      edit.apply fresh program = .ok (changed, reply) →
        edit.Touches fresh program changed reply ∧ edit.Keeps program changed) ∧
    ∀ (edit : Edit) (fresh : Ident) (owner other : ActorId) (handler : HandlerId),
      edit.named? = some (owner, handler) → owner ∈ program.actors.map Actor.id →
      program.Owns other handler → other ≠ owner →
        edit.apply fresh program = .error (.unknownHandler owner handler) ∧
          edit.after fresh program = program := by
  have h : program.WellFormed := validate_eq_ok_iff.mp hvalid
  refine ⟨fun edit fresh changed reply hok => ?_,
    fun edit fresh owner other handler hnamed howner hother hne => ?_⟩
  · have htouches := h.touches hok
    exact ⟨htouches, htouches.keeps h.actors_distinct⟩
  · have herror := apply_of_missing? hnamed (h.missing?_of_owns howner hother hne) fresh
    exact ⟨herror, Edit.after_of_error herror⟩

/-- The cat's second handler gets a new body, between two handlers that stay. It cannot get it as a
    handler of the stage. -/
theorem cat_neighbours_stay : ∃ changed,
    (Edit.setBody ⟨2⟩ ⟨4⟩ ["stop();"]).apply 0 catOnStage = .ok (changed, .done) ∧
    [(⟨2⟩, ⟨⟨3⟩, .startAsClone, []⟩), (⟨2⟩, ⟨⟨5⟩, .clicked, []⟩)].Sublist
      (ofOwner ⟨2⟩ changed.sections) ∧
    (Edit.setBody ⟨1⟩ ⟨4⟩ ["stop();"]).apply 0 catOnStage =
      .error (.unknownHandler ⟨1⟩ ⟨4⟩) := by
  obtain ⟨hdone, hforeign⟩ := edits_touch_what_they_address validate_catOnStage
  obtain ⟨changed, hok⟩ : ∃ changed,
      (Edit.setBody ⟨2⟩ ⟨4⟩ ["stop();"]).apply 0 catOnStage = .ok (changed, .done) := ⟨_, rfl⟩
  obtain ⟨-, hkeeps⟩ := hdone _ _ _ _ hok
  have howns : catOnStage.Owns ⟨2⟩ ⟨4⟩ := ⟨_, List.mem_of_getLast? rfl, rfl, by decide⟩
  obtain ⟨herror, -⟩ := hforeign (.setBody ⟨1⟩ ⟨4⟩ ["stop();"]) 0 ⟨1⟩ ⟨2⟩ ⟨4⟩ rfl (by decide) howns
    (by decide)
  exact ⟨changed, hok, hkeeps.handler_order ⟨2⟩ (fun order => by simp), herror⟩

end Program

end Stagecraft
