import Stagecraft.Proofs.Program.Identity

/-!
# Identity over a whole run

A program is edited any number of times. Where no id is used a second time, an id stands for the
same thing at every point of the run.

* `Program.cast`: who is there, and as what; `Program.mem_cast_of_apply` says what one edit does to
  that, as `Program.owns_of_apply` does for handlers;
* `Program.edited` is what edits lead to, `Program.NeverReuses` that no id is used a second time,
  and `Program.invariant_edited` lifts what one edit keeps to a run;
* `Program.cast_of_edited`, `Program.owns_of_edited`: **who is there at two points of a run was
  there at every point between**, as the same kind of actor and with the same owner;
* `Program.identity_is_stable` is about any three points of a run.
-/

namespace Stagecraft

namespace Program

variable {program changed seen : Program} {id owner : ActorId} {handler : HandlerId}
  {member : ActorId × ActorKind} {edit : Edit} {fresh : Ident} {reply : Reply}

/-! ## 1. Who is there -/

/-- The actors' ids with their kinds. -/
def cast (program : Program) : List (ActorId × ActorKind) :=
  program.actors.map fun actor => (actor.id, actor.kind)

theorem mem_cast {kind : ActorKind} : (id, kind) ∈ program.cast ↔
    ∃ actor ∈ program.actors, actor.id = id ∧ actor.kind = kind := by
  simp [cast]

theorem mem_ids_of_mem_cast (h : member ∈ program.cast) :
    member.1 ∈ program.actors.map Actor.id := by
  obtain ⟨actor, ha, hid, -⟩ := mem_cast.mp h
  exact List.mem_map.mpr ⟨actor, ha, hid⟩

/-- Every actor is there as something. -/
theorem exists_mem_cast (h : id ∈ program.actors.map Actor.id) :
    ∃ kind, (id, kind) ∈ program.cast := by
  obtain ⟨actor, ha, hid⟩ := List.mem_map.mp h
  exact ⟨actor.kind, mem_cast.mpr ⟨actor, ha, hid, rfl⟩⟩

/-- In a well-formed program an id is there as one kind only. -/
theorem WellFormed.kind_unique (h : program.WellFormed) {kind other : ActorKind}
    (hkind : (id, kind) ∈ program.cast) (hother : (id, other) ∈ program.cast) : other = kind := by
  obtain ⟨actor, ha, rfl, rfl⟩ := mem_cast.mp hkind
  obtain ⟨actor', ha', hid, rfl⟩ := mem_cast.mp hother
  rw [h.eq_of_id_eq ha ha' hid]

/-- The stage of a well-formed program is the one that is there as the stage. -/
theorem WellFormed.mem_cast_stage_iff (h : program.WellFormed) :
    (id, .stage) ∈ program.cast ↔ id = program.stageId := by
  obtain ⟨-, stage, sprites, hactors, hstage, hsprites⟩ := wellFormed_iff.mp h
  rw [stageId_eq hactors, mem_cast, hactors]
  constructor
  · intro hmem
    obtain ⟨actor, ha, rfl, hkind⟩ := hmem
    rcases List.mem_cons.mp ha with rfl | ha
    · rfl
    · rw [hsprites actor ha] at hkind
      cases hkind
  · rintro rfl
    exact ⟨stage, List.mem_cons_self, rfl, hstage⟩

theorem cast_updateActor (id : ActorId) {change : Actor → Actor}
    (hid : ∀ actor, (change actor).id = actor.id)
    (hkind : ∀ actor, (change actor).kind = actor.kind) :
    (program.updateActor id change).cast = program.cast := by
  unfold cast updateActor
  rw [List.map_map]
  refine List.map_congr_left fun actor _ => ?_
  dsimp only [Function.comp_apply]
  split
  · rw [hid, hkind]
  · rfl

/-- **No edit changes what an actor is.** Who is there after an edit was there before it as the
    same, or the edit has made the actor, a sprite. -/
theorem mem_cast_of_apply (hok : edit.apply fresh program = .ok (changed, reply))
    (h : member ∈ changed.cast) :
    member ∈ program.cast ∨ member = (⟨fresh⟩, .sprite) ∧ edit.MakesActor := by
  cases effect_of_apply hok with
  | makesActor index name hedit _ =>
      obtain ⟨actor, ha, hmember⟩ := List.mem_map.mp h
      rcases List.eq_or_mem_of_mem_insertIdx ha with rfl | ha
      · exact Or.inr ⟨hmember.symm, hedit⟩
      · exact Or.inl (List.mem_map.mpr ⟨actor, ha, hmember⟩)
  | deletesActor front actor deleted back _ hactors =>
      obtain ⟨kept, ha, hmember⟩ := List.mem_map.mp h
      have hsub : (front ++ actor :: back).Sublist program.actors := by
        rw [hactors]
        exact (((List.sublist_cons_self deleted back).cons_cons actor).append_left front)
      exact Or.inl (List.mem_map.mpr ⟨kept, hsub.subset ha, hmember⟩)
  | rearranges actors hperm =>
      obtain ⟨actor, ha, hmember⟩ := List.mem_map.mp h
      exact Or.inl (List.mem_map.mpr ⟨actor, hperm.subset ha, hmember⟩)
  | makesHandler id position trigger _ =>
      have hcast : (program.updateHandlers id
          (·.insertIdx (slot position) ⟨⟨fresh⟩, trigger, []⟩)).cast = program.cast :=
        cast_updateActor id (fun _ => rfl) fun _ => rfl
      exact Or.inl (hcast ▸ h)
  | changes id change hid hkind _ => exact Or.inl (cast_updateActor id hid hkind ▸ h)

theorem not_mem_ids_of_isNew (hnew : edit.IsNew fresh seen)
    (hmakes : edit.MakesActor) : ⟨fresh⟩ ∉ seen.actors.map Actor.id := by
  cases edit with
  | insertActor => exact hnew
  | appendSprite => exact hnew
  | _ => exact hmakes.elim

/-- **No edit brings an actor back.** Where its id is new to a program seen before, the actors of
    that program that are there after the edit were there before it, as the same. -/
theorem mem_cast_of_apply_of_isNew (hnew : edit.IsNew fresh seen)
    (hseen : member.1 ∈ seen.actors.map Actor.id)
    (hok : edit.apply fresh program = .ok (changed, reply)) (h : member ∈ changed.cast) :
    member ∈ program.cast := by
  rcases mem_cast_of_apply hok h with hold | ⟨rfl, hmakes⟩
  · exact hold
  · exact absurd hseen (not_mem_ids_of_isNew hnew hmakes)

/-! ## 2. Runs -/

/-- What edits lead to, each with the id for what it makes. A refused edit changes nothing. -/
def edited : Program → List (Edit × Ident) → Program
  | program, [] => program
  | program, (edit, fresh) :: more => (edit.after fresh program).edited more

/-- **No id is used a second time**: an id that is used up is new to the program of the edit and to
    all programs `met` before. -/
def NeverReuses : List Program → Program → List (Edit × Ident) → Prop
  | _, _, [] => True
  | met, program, (edit, fresh) :: more =>
    ((edit.apply fresh program).isOk = true → ∀ seen ∈ program :: met, edit.IsNew fresh seen) ∧
      NeverReuses (program :: met) (edit.after fresh program) more

instance decidableIsNew (edit : Edit) (fresh : Ident) (program : Program) :
    Decidable (edit.IsNew fresh program) :=
  match edit with
  | .insertActor .. => inferInstanceAs (Decidable (_ ∉ program.actors.map Actor.id))
  | .appendSprite _ => inferInstanceAs (Decidable (_ ∉ program.actors.map Actor.id))
  | .insertHandler .. => inferInstanceAs (Decidable (_ ∉ program.handlerIds))
  | .deleteActor _ | .renameActor .. | .reorderActors _ | .deleteHandler .. | .reorderHandlers ..
  | .setBody .. | .setBodyText .. | .setTrigger .. => .isTrue trivial

instance decidableNeverReuses :
    ∀ (met : List Program) (program : Program) (edits : List (Edit × Ident)),
      Decidable (NeverReuses met program edits)
  | _, _, [] => .isTrue trivial
  | met, program, (edit, fresh) :: more =>
    @instDecidableAnd _ _ inferInstance
      (decidableNeverReuses (program :: met) (edit.after fresh program) more)

variable {met : List Program} {edits more : List (Edit × Ident)}

theorem edited_append :
    ∀ (program : Program) (edits : List (Edit × Ident)),
      program.edited (edits ++ more) = (program.edited edits).edited more
  | _, [] => rfl
  | program, (edit, fresh) :: edits => edited_append (edit.after fresh program) edits

theorem NeverReuses.left (h : NeverReuses met program (edits ++ more)) :
    NeverReuses met program edits := by
  induction edits generalizing met program with
  | nil => exact trivial
  | cons first edits ih => exact ⟨h.1, ih h.2⟩

/-- Later on in a run there are more programs that have been met. -/
theorem NeverReuses.exists_of_append (h : NeverReuses met program (edits ++ more)) :
    ∃ met', NeverReuses met' (program.edited edits) more ∧
      ∀ seen ∈ program :: met, seen ∈ program.edited edits :: met' := by
  induction edits generalizing met program with
  | nil => exact ⟨met, h, fun _ hseen => hseen⟩
  | cons first edits ih =>
      obtain ⟨edit, fresh⟩ := first
      obtain ⟨met', hmore, hmet⟩ := ih h.2
      exact ⟨met', hmore, fun seen hseen => hmet seen (List.mem_cons_of_mem _ hseen)⟩

/-- **What one edit keeps, a run keeps**, if every edit draws an id that is new to what was seen. -/
theorem invariant_edited (kept : Program → Prop)
    (hstep : ∀ {program changed : Program} {edit : Edit} {fresh : Ident} {reply : Reply},
      edit.IsNew fresh seen → edit.apply fresh program = .ok (changed, reply) →
        kept program → kept changed)
    (hnew : NeverReuses met program edits) (hseen : seen ∈ program :: met) (hstart : kept program) :
    kept (program.edited edits) := by
  induction edits generalizing met program with
  | nil => exact hstart
  | cons first edits ih =>
      obtain ⟨edit, fresh⟩ := first
      obtain ⟨hdraws, hmore⟩ := hnew
      refine ih hmore (List.mem_cons_of_mem _ hseen) ?_
      rw [Edit.after_eq]
      cases hok : edit.apply fresh program with
      | error fault => exact hstart
      | ok result => exact hstep (hdraws (by rw [hok]; rfl) seen hseen) hok hstart

theorem NeverReuses.reaches (h : NeverReuses met program edits) {start : Program}
    (hstart : start.Reaches program) : start.Reaches (program.edited edits) := by
  induction edits generalizing met program with
  | nil => exact hstart
  | cons first edits ih =>
      obtain ⟨edit, fresh⟩ := first
      obtain ⟨hdraws, hmore⟩ := h
      exact ih hmore (.edit edit fresh hstart fun hok => hdraws hok program List.mem_cons_self)

/-! ## 3. What a run keeps -/

/-- **Who was seen before and is there after a run** was there at its start, as the same. -/
theorem cast_of_edited (hnew : NeverReuses met program edits) (hseen : seen ∈ program :: met)
    (hthen : member.1 ∈ seen.actors.map Actor.id) (h : member ∈ (program.edited edits).cast) :
    member ∈ program.cast :=
  invariant_edited (fun now => member ∈ now.cast → member ∈ program.cast)
    (fun hisNew hok hkept hnow => hkept (mem_cast_of_apply_of_isNew hisNew hthen hok hnow))
    hnew hseen id h

/-- **Whose a handler is after a run**, if it was seen before, it was at the start. -/
theorem owns_of_edited (hnew : NeverReuses met program edits) (hseen : seen ∈ program :: met)
    (hthen : handler ∈ seen.handlerIds) (h : (program.edited edits).Owns owner handler) :
    program.Owns owner handler :=
  invariant_edited (fun now => now.Owns owner handler → program.Owns owner handler)
    (fun hisNew hok hkept hnow => hkept (owns_of_apply_of_isNew hisNew hthen hok hnow))
    hnew hseen (fun hstart => hstart) h

theorem stageId_of_apply (hok : edit.apply fresh program = .ok (changed, reply))
    (h : program.WellFormed) (hchanged : changed.WellFormed) :
    changed.stageId = program.stageId := by
  have hstage : (changed.stageId, ActorKind.stage) ∈ changed.cast :=
    hchanged.mem_cast_stage_iff.mpr rfl
  rcases mem_cast_of_apply hok hstage with hold | ⟨hsprite, -⟩
  · exact h.mem_cast_stage_iff.mp hold
  · exact ActorKind.noConfusion (congrArg Prod.snd hsprite)

/-- **The stage stays.** -/
theorem Reaches.stageId_eq {start : Program} (h : start.Reaches program)
    (hstart : start.WellFormed) : program.stageId = start.stageId := by
  induction h with
  | start => rfl
  | @edit before edit fresh hbefore hfresh ih =>
      have hwell : before.WellFormed := hbefore.wellFormed hstart
      have hafter := hwell.edited hfresh
      rw [Edit.after_eq] at hafter ⊢
      cases hok : edit.apply fresh before with
      | error fault => exact ih
      | ok result =>
          rw [hok] at hafter
          exact (stageId_of_apply hok hwell hafter).trans ih

/-! ## 4. Between two points of a run -/

/-- An actor is at a later point what it was. -/
theorem WellFormed.kind_edited (h : program.WellFormed) (hnew : NeverReuses met program edits)
    {kind later : ActorKind} (hthen : (id, kind) ∈ program.cast)
    (hnow : (id, later) ∈ (program.edited edits).cast) : later = kind := by
  have hthere : id ∈ program.actors.map Actor.id := mem_ids_of_mem_cast hthen
  exact h.kind_unique hthen (cast_of_edited hnew List.mem_cons_self hthere hnow)

/-- A handler is at a later point whose it was. -/
theorem WellFormed.owner_edited (h : program.WellFormed) (hnew : NeverReuses met program edits)
    {other : ActorId} (hthen : program.Owns owner handler)
    (hnow : (program.edited edits).Owns other handler) : other = owner :=
  h.owner_unique (owns_of_edited hnew List.mem_cons_self
    (mem_handlerIds_iff_owns.mpr ⟨owner, hthen⟩) hnow) hthen

/-- An actor that is there before and after is there between. -/
theorem mem_ids_between (hnew : NeverReuses met program (edits ++ more))
    (hthen : id ∈ program.actors.map Actor.id)
    (hnow : id ∈ ((program.edited edits).edited more).actors.map Actor.id) :
    id ∈ (program.edited edits).actors.map Actor.id := by
  obtain ⟨met', hmore, hmet⟩ := hnew.exists_of_append
  obtain ⟨kind, hkind⟩ := exists_mem_cast hnow
  exact mem_ids_of_mem_cast (cast_of_edited hmore (hmet program List.mem_cons_self) hthen hkind)

/-- A handler that is there before and after is there between, with the same owner. -/
theorem owns_between (hnew : NeverReuses met program (edits ++ more))
    (hthen : handler ∈ program.handlerIds)
    (hnow : ((program.edited edits).edited more).Owns owner handler) :
    (program.edited edits).Owns owner handler := by
  obtain ⟨met', hmore, hmet⟩ := hnew.exists_of_append
  exact owns_of_edited hmore (hmet program List.mem_cons_self) hthen hnow

/-! ## 5. Any three points -/

/-- **Identity is stable over a whole run.** Let a program that passed the check be edited any
    number of times, accepted or refused, and let no id be used a second time. At every point the
    stage is the actor that it was at first. Between an earlier point of the run (`past`) and a
    later one (`now`) no actor has become another kind of actor, and a handler that is there at both
    belongs to the same actor. What was there at the earlier point and is gone at a point between
    (`middle`) does not come back: neither an actor nor a handler, nor any handler of an actor that
    is gone. -/
theorem identity_is_stable {start : Program} {first second third : List (Edit × Ident)}
    (hvalid : start.validate = .ok ())
    (hnew : NeverReuses [] start (first ++ second ++ third)) :
    let past := start.edited first
    let middle := start.edited (first ++ second)
    let now := start.edited (first ++ second ++ third)
    (past.stageId = start.stageId ∧
      ∀ actor ∈ past.actors, actor.kind = .stage ↔ actor.id = start.stageId) ∧
    (∀ actor ∈ past.actors, ∀ later ∈ now.actors, later.id = actor.id → later.kind = actor.kind) ∧
    (∀ owner handler, past.Owns owner handler → handler ∈ now.handlerIds →
      now.Owns owner handler ∧ ∀ other, now.Owns other handler → other = owner) ∧
    (∀ id ∈ past.actors.map Actor.id, id ∉ middle.actors.map Actor.id →
      id ∉ now.actors.map Actor.id) ∧
    (∀ handler ∈ past.handlerIds, handler ∉ middle.handlerIds → handler ∉ now.handlerIds) ∧
    (∀ owner handler, past.Owns owner handler → owner ∉ middle.actors.map Actor.id →
      handler ∉ now.handlerIds) := by
  intro past middle now
  have hstart : start.WellFormed := validate_eq_ok_iff.mp hvalid
  rw [List.append_assoc] at hnew
  have hreaches : start.Reaches past := hnew.left.reaches .start
  have hpast : past.WellFormed := hreaches.wellFormed hstart
  have hstage : past.stageId = start.stageId := hreaches.stageId_eq hstart
  obtain ⟨met, hlater, -⟩ := hnew.exists_of_append
  have hmiddle : middle = past.edited second := edited_append start first
  have hnow : now = past.edited (second ++ third) :=
    (congrArg start.edited (List.append_assoc first second third)).trans (edited_append start first)
  have hthird : now = middle.edited third := edited_append start (first ++ second)
  have howner : ∀ owner handler other, past.Owns owner handler → now.Owns other handler →
      other = owner := fun owner handler other hthen h =>
    hpast.owner_edited hlater hthen (hnow ▸ h)
  have hbetween : ∀ handler owner, handler ∈ past.handlerIds → now.Owns owner handler →
      middle.Owns owner handler := fun handler owner hthen h => by
    rw [hthird, hmiddle] at h
    exact hmiddle ▸ owns_between hlater hthen h
  refine ⟨⟨hstage, fun actor ha => ?_⟩, fun actor ha later hla hid => ?_,
    fun owner handler hthen h => ?_, fun id hthen hgone h => hgone ?_,
    fun handler hthen hgone h => hgone ?_, fun owner handler hthen hgone h => hgone ?_⟩
  · rw [← hstage, ← hpast.mem_cast_stage_iff, mem_cast]
    constructor
    · exact fun hkind => ⟨actor, ha, rfl, hkind⟩
    · intro hthere
      obtain ⟨other, hother, hid, hkind⟩ := hthere
      rwa [hpast.eq_of_id_eq ha hother hid] at hkind
  · exact hpast.kind_edited hlater (mem_cast.mpr ⟨actor, ha, rfl, rfl⟩)
      (hnow ▸ mem_cast.mpr ⟨later, hla, hid, rfl⟩)
  · obtain ⟨other, hother⟩ := mem_handlerIds_iff_owns.mp h
    exact ⟨howner owner handler other hthen hother ▸ hother,
      fun other => howner owner handler other hthen⟩
  · rw [hthird, hmiddle] at h
    exact hmiddle ▸ mem_ids_between hlater hthen h
  · obtain ⟨owner, howns⟩ := mem_handlerIds_iff_owns.mp h
    exact mem_handlerIds_iff_owns.mpr ⟨owner, hbetween handler owner hthen howns⟩
  · obtain ⟨other, hother⟩ := mem_handlerIds_iff_owns.mp h
    obtain rfl : other = owner := howner owner handler other hthen hother
    exact (hbetween handler other (mem_handlerIds_iff_owns.mpr ⟨other, hthen⟩) hother).mem_ids

/-- The cat is deleted and another one is made: the handlers of the first do not come back, and the
    stage can be deleted neither before nor after. -/
theorem no_handler_of_first_cat :
    let first : List (Edit × Ident) := [(.insertHandler ⟨2⟩ none .clicked, 6)]
    let second : List (Edit × Ident) := [(.deleteActor ⟨1⟩, 0), (.deleteActor ⟨2⟩, 0)]
    let third : List (Edit × Ident) := [(.insertActor 0 "Cat", 3), (.deleteActor ⟨1⟩, 0)]
    let past := catOnStage.edited first
    let now := catOnStage.edited (first ++ second ++ third)
    NeverReuses [] catOnStage (first ++ second ++ third) ∧ past.Owns ⟨2⟩ ⟨6⟩ ∧
      ⟨6⟩ ∉ now.handlerIds ∧ ⟨1⟩ ∈ now.actors.map Actor.id := by
  intro first second third past now
  have hnew : NeverReuses [] catOnStage (first ++ second ++ third) := by decide +kernel
  have howns : past.Owns ⟨2⟩ ⟨6⟩ := by
    refine ⟨_, List.mem_cons_of_mem _ List.mem_cons_self, rfl, ?_⟩
    exact List.mem_cons_self
  obtain ⟨-, -, -, -, -, hgone⟩ := identity_is_stable validate_catOnStage hnew
  exact ⟨hnew, howns, hgone ⟨2⟩ ⟨6⟩ howns (by decide +kernel), by decide +kernel⟩

end Program

end Stagecraft
