import Stagecraft.Proofs.Program.Verdict

/-!
# Every program can be built

The check guards trees that come from outside. Whatever it lets in could as well have been made
here: from a new program under the name of the stage, by giving the stage its handlers and then
appending one sprite after the other, each with its handlers. On the way there is no tree that the
check would refuse.

* `Program.recipe` lists these edits, as the tree tells them, with the ids for what they make;
* `Program.Builds`: edits lead from one program to another, all of them carried out, and every id
  new to the program at the moment it is drawn;
* `Program.builds_handlers`, `Program.builds_sprites`: a tree that is in order is built up from one
  that is cut off behind any handler or any sprite;
* `Program.checked_tree_is_built` is about all trees that pass the check, and
  `Program.validate_eq_ok_iff_built` says that no other tree is built.
-/

namespace Stagecraft

/-! ## 1. The recipe -/

/-- Where to put a handler that so many handlers stand before. -/
def behind : Nat → Option Nat
  | 0 => none
  | count + 1 => some count

theorem slot_behind : ∀ count, slot (behind count) = count
  | 0 => rfl
  | _ + 1 => rfl

/-- The edits that give handlers to an actor that has `count` of them. The handler is made with its
    trigger and without lines; to set its body draws no id. -/
def handlersRecipe (owner : ActorId) : Nat → List Handler → List (Edit × Ident)
  | _, [] => []
  | count, handler :: more =>
    (.insertHandler owner (behind count) handler.trigger, handler.id.ident) ::
      (.setBody owner handler.id handler.body, 0) :: handlersRecipe owner (count + 1) more

/-- The edits that give an actor its handlers. -/
def Actor.recipe (actor : Actor) : List (Edit × Ident) :=
  handlersRecipe actor.id 0 actor.handlers

/-- The edits that append sprites with their handlers. -/
def spritesRecipe : List Actor → List (Edit × Ident)
  | [] => []
  | sprite :: more =>
    (.appendSprite sprite.name, sprite.id.ident) :: sprite.recipe ++ spritesRecipe more

/-- The edits that build a program out of its stage. -/
def Program.recipe (program : Program) : List (Edit × Ident) :=
  match program.actors with
  | [] => []
  | stage :: sprites => stage.recipe ++ spritesRecipe sprites

/-- The id of the actor that a call makes. -/
def madeActor? : Edit × Ident → Option ActorId
  | (.insertActor .., fresh) | (.appendSprite _, fresh) => some ⟨fresh⟩
  | _ => none

/-- The id of the handler that a call makes. -/
def madeHandler? : Edit × Ident → Option HandlerId
  | (.insertHandler .., fresh) => some ⟨fresh⟩
  | _ => none

section Made

variable {owner : ActorId} {count : Nat} {handlers : List Handler} {sprites : List Actor}

theorem madeActors_handlersRecipe :
    (handlersRecipe owner count handlers).filterMap madeActor? = [] := by
  induction handlers generalizing count with
  | nil => rfl
  | cons handler more ih => exact ih

theorem madeHandlers_handlersRecipe :
    (handlersRecipe owner count handlers).filterMap madeHandler? = handlers.map Handler.id := by
  induction handlers generalizing count with
  | nil => rfl
  | cons handler more ih => exact congrArg (handler.id :: ·) ih

theorem madeActors_spritesRecipe :
    (spritesRecipe sprites).filterMap madeActor? = sprites.map Actor.id := by
  induction sprites with
  | nil => rfl
  | cons sprite more ih =>
      simp [spritesRecipe, Actor.recipe, madeActors_handlersRecipe, madeActor?, ih]

theorem madeHandlers_spritesRecipe :
    (spritesRecipe sprites).filterMap madeHandler? = Program.handlerIds ⟨sprites⟩ := by
  induction sprites with
  | nil => rfl
  | cons sprite more ih =>
      have hsprite : madeHandler? (.appendSprite sprite.name, sprite.id.ident) = none := rfl
      unfold spritesRecipe Actor.recipe
      rw [List.filterMap_append, List.filterMap_cons_none hsprite, madeHandlers_handlersRecipe, ih]
      rfl

/-- **What the recipe makes** is every actor behind the stage, once, in the order of the tree. -/
theorem Program.madeActors_recipe (program : Program) :
    program.recipe.filterMap madeActor? = program.actors.tail.map Actor.id := by
  unfold Program.recipe
  cases program.actors with
  | nil => rfl
  | cons stage sprites =>
      simp [Actor.recipe, madeActors_handlersRecipe, madeActors_spritesRecipe]

/-- It makes every handler, too, the stage's among them. -/
theorem Program.madeHandlers_recipe (program : Program) :
    program.recipe.filterMap madeHandler? = program.handlerIds := by
  unfold Program.recipe Program.handlerIds
  cases program.actors with
  | nil => rfl
  | cons stage sprites =>
      simp [Actor.recipe, madeHandlers_handlersRecipe, madeHandlers_spritesRecipe,
        Program.handlerIds]

end Made

/-! ## 2. Building -/

namespace Program

/-- **Edits build a program out of another one**: each of them is carried out, and the id for what
    it makes is new at that moment. -/
inductive Builds : Program → List (Edit × Ident) → Program → Prop where
  | done (program : Program) : Builds program [] program
  | step {program changed built : Program} {edit : Edit} {fresh : Ident} {reply : Reply}
      {more : List (Edit × Ident)} (hnew : edit.IsNew fresh program)
      (hok : edit.apply fresh program = .ok (changed, reply)) (hmore : Builds changed more built) :
      Builds program ((edit, fresh) :: more) built

variable {start program built : Program} {edits more : List (Edit × Ident)}

theorem Builds.append (h : start.Builds edits program) (hmore : program.Builds more built) :
    start.Builds (edits ++ more) built := by
  induction h with
  | done => exact hmore
  | step hnew hok _ ih => exact .step hnew hok (ih hmore)

/-- What is built out of a program in order is in order. -/
theorem Builds.wellFormed (h : start.Builds edits program) (hstart : start.WellFormed) :
    program.WellFormed := by
  induction h with
  | done => exact hstart
  | step hnew hok _ ih => exact ih (hstart.apply hnew hok)

/-! ## 3. Trees that are cut off -/

theorem not_mem_of_nodup_concat {κ : Type} {keys : List κ} {last : κ}
    (h : (keys ++ [last]).Nodup) : last ∉ keys := by
  rw [← List.concat_eq_append, List.nodup_concat] at h
  exact h.1

variable {before after : List Actor} {actor stage : Actor} {sprites : List Actor}
  {front back : List Handler} {handler : Handler}

/-- A tree that is cut off behind an actor. -/
theorem WellFormed.cut (h : WellFormed ⟨before ++ after⟩) (hne : before ≠ []) :
    WellFormed ⟨before⟩ := by
  obtain ⟨hstage, hadmits, hkinds⟩ := wellFormed_iff_kindsFrom.mp h
  refine wellFormed_iff_kindsFrom.mpr
    ⟨?_, (Seen.admits_append.mp hadmits).1, (Seen.kindsFrom_append.mp hkinds).1⟩
  rwa [List.head?_append_of_ne_nil _ hne] at hstage

/-- A tree that is cut off behind a handler of the last actor. -/
theorem WellFormed.cut_handlers
    (h : WellFormed ⟨before ++ [{ actor with handlers := front ++ back }]⟩) :
    WellFormed ⟨before ++ [{ actor with handlers := front }]⟩ := by
  obtain ⟨hid, hname, hnew, hlines⟩ := Seen.admits_singleton.mp (h.admits_actor rfl)
  dsimp only at hnew
  rw [List.map_append] at hnew
  refine h.replaceActor rfl rfl (Seen.admits_singleton.mpr ⟨hid, hname, ?_, ?_⟩)
  · exact (allNew_append.mp hnew).1
  · exact fun found hfound => hlines found (List.mem_append_left back hfound)

/-- What is cut off has other ids than what is left. -/
theorem WellFormed.handler_new
    (h : WellFormed ⟨before ++ [{ actor with handlers := front ++ [handler] }]⟩) :
    handler.id ∉ handlerIds ⟨before ++ [{ actor with handlers := front }]⟩ := by
  have hids : handlerIds ⟨before ++ [{ actor with handlers := front ++ [handler] }]⟩ =
      handlerIds ⟨before ++ [{ actor with handlers := front }]⟩ ++ [handler.id] := by
    simp [handlerIds]
  have hnodup := h.handlers_distinct
  rw [hids] at hnodup
  exact not_mem_of_nodup_concat hnodup

/-! ## 4. One part after the other -/

/-- A handler without lines is put behind the handlers of the last actor. -/
theorem WellFormed.apply_insertHandler (h : WellFormed ⟨before ++ [actor]⟩) (event : Trigger)
    (fresh : Ident) :
    (Edit.insertHandler actor.id (behind actor.handlers.length) event).apply fresh
        ⟨before ++ [actor]⟩ =
      .ok (⟨before ++ [{ actor with handlers := actor.handlers ++ [⟨⟨fresh⟩, event, []⟩] }]⟩,
        .handler ⟨fresh⟩) := by
  have hthere : actor ∈ before ++ [actor] := List.mem_concat_self
  rw [Edit.apply_eq_result]
  refine Except.map_eq_ok_iff.mpr ⟨_, insertHandler_eq_ok_iff.mpr
    ⟨actor, h.actor?_eq_some hthere, Nat.le_of_eq (slot_behind _), ?_⟩, rfl⟩
  unfold Program.updateHandlers
  rw [h.updateActor_eq rfl, slot_behind]
  dsimp only
  rw [List.insertIdx_length_self]

/-- The last handler of the last actor gets its lines. -/
theorem WellFormed.apply_setBody (h : WellFormed ⟨before ++ [actor]⟩)
    (hhandlers : actor.handlers = front ++ [handler]) {lines : List String}
    (hlines : ∀ line ∈ lines, Text.hasBreak line = false) (any : Ident) :
    (Edit.setBody actor.id handler.id lines).apply any ⟨before ++ [actor]⟩ =
      .ok (⟨before ++ [{ actor with handlers := front ++ [{ handler with body := lines }] }]⟩,
        .done) := by
  have hthere : actor ∈ before ++ [actor] := List.mem_concat_self
  have hmem : handler ∈ actor.handlers := by
    rw [hhandlers]
    exact List.mem_concat_self
  have hfound : actor.handler? handler.id = some handler :=
    find?_key_eq_some (h.nodup_handlers hthere) hmem
  have hset := h.updateHandler_eq rfl hhandlers fun found => { found with body := lines }
  rw [Edit.apply_eq_result]
  exact Except.map_eq_ok_iff.mpr ⟨_, setBody_eq_ok_iff.mpr ⟨missing?_eq_none_iff.mpr
    ⟨actor, h.actor?_eq_some hthere, handler, hfound⟩, hlines, hset.symm⟩, rfl⟩

/-- **A handler is built** in two edits. -/
theorem builds_handler
    (h : WellFormed ⟨before ++ [{ actor with handlers := front ++ [handler] }]⟩) :
    Builds ⟨before ++ [{ actor with handlers := front }]⟩
      [(.insertHandler actor.id (behind front.length) handler.trigger, handler.id.ident),
        (.setBody actor.id handler.id handler.body, 0)]
      ⟨before ++ [{ actor with handlers := front ++ [handler] }]⟩ := by
  have hcut := h.cut_handlers
  have hnew : (Edit.insertHandler actor.id (behind front.length) handler.trigger).IsNew
      handler.id.ident ⟨before ++ [{ actor with handlers := front }]⟩ := h.handler_new
  have hmade := hcut.apply_insertHandler handler.trigger handler.id.ident
  have hwithout := hcut.apply hnew hmade
  have hlines : ∀ line ∈ handler.body, Text.hasBreak line = false :=
    h.lines_unbroken _ List.mem_concat_self handler List.mem_concat_self
  -- between the two edits the handler is there without its lines
  exact .step hnew hmade (.step trivial (hwithout.apply_setBody rfl hlines 0) (.done _))

/-- **So is one handler after the other.** -/
theorem builds_handlers
    (h : WellFormed ⟨before ++ [{ actor with handlers := front ++ back }]⟩) :
    Builds ⟨before ++ [{ actor with handlers := front }]⟩
      (handlersRecipe actor.id front.length back)
      ⟨before ++ [{ actor with handlers := front ++ back }]⟩ := by
  induction back generalizing front with
  | nil =>
      rw [List.append_nil]
      exact .done _
  | cons handler more ih =>
      have hsplit : front ++ handler :: more = (front ++ [handler]) ++ more := by simp
      rw [hsplit] at h ⊢
      -- the handlers that are there already tell where the next one goes
      have hmore := ih h
      rw [List.length_append] at hmore
      exact (builds_handler h.cut_handlers).append hmore

/-- The last actor is given all its handlers. -/
theorem builds_actor (h : WellFormed ⟨before ++ [actor]⟩) :
    Builds ⟨before ++ [{ actor with handlers := [] }]⟩ actor.recipe ⟨before ++ [actor]⟩ := by
  have hwhole : WellFormed ⟨before ++ [{ actor with handlers := [] ++ actor.handlers }]⟩ := h
  exact builds_handlers hwhole

/-- **A sprite without handlers is appended.** -/
theorem WellFormed.apply_appendSprite (h : WellFormed ⟨before ++ [actor]⟩) (hne : before ≠ []) :
    (Edit.appendSprite actor.name).apply actor.id.ident ⟨before⟩ =
      .ok (⟨before ++ [{ actor with handlers := [] }]⟩, .actor actor.id) := by
  have hlast : before.length - 1 + 1 = before.length :=
    Nat.sub_add_cancel (List.length_pos_iff.mpr hne)
  have hallowed : Name.Allowed actor.name :=
    h.names_allowed actor List.mem_concat_self
  have hkind : actor.kind = .sprite := by
    refine h.sprites_after actor ?_
    rw [List.tail_append_of_ne_nil hne]
    exact List.mem_concat_self
  have hfree : actor.name ∉ before.map Actor.name := by
    have hnodup := h.names_distinct
    unfold names at hnodup
    rw [List.map_append] at hnodup
    exact not_mem_of_nodup_concat hnodup
  rw [Edit.apply_eq_result]
  refine Except.map_eq_ok_iff.mpr ⟨_, insertActor_eq_ok_iff.mpr
    ⟨?_, Name.fault?_eq_none_iff.mpr ⟨hallowed, hfree⟩, ?_⟩, rfl⟩
  · show before.length - 1 < before.length
    omega
  · show _ = Program.mk (before.insertIdx (before.length - 1 + 1) _)
    rw [hlast, List.insertIdx_length_self, ← hkind]

theorem WellFormed.actor_new (h : WellFormed ⟨before ++ [actor]⟩) :
    actor.id ∉ before.map Actor.id := by
  have hnodup := h.actors_distinct
  rw [List.map_append] at hnodup
  exact not_mem_of_nodup_concat hnodup

/-- **Sprites are built one after the other**, each with its handlers. -/
theorem builds_sprites (h : WellFormed ⟨before ++ sprites⟩) (hne : before ≠ []) :
    Builds ⟨before⟩ (spritesRecipe sprites) ⟨before ++ sprites⟩ := by
  induction sprites generalizing before with
  | nil =>
      rw [List.append_nil]
      exact .done _
  | cons sprite more ih =>
      have hsplit : before ++ sprite :: more = (before ++ [sprite]) ++ more := by simp
      rw [hsplit] at h ⊢
      have hsprite : WellFormed ⟨before ++ [sprite]⟩ := h.cut (by simp)
      have hnew : (Edit.appendSprite sprite.name).IsNew sprite.id.ident ⟨before⟩ :=
        hsprite.actor_new
      have happended := hsprite.apply_appendSprite hne
      exact (Builds.step hnew happended (builds_actor hsprite)).append (ih h (by simp))

/-! ## 5. Whole trees -/

/-- **A program is built by its recipe** out of its stage without handlers. -/
theorem WellFormed.builds_recipe (h : program.WellFormed)
    (hactors : program.actors = stage :: sprites) :
    Builds ⟨[{ stage with handlers := [] }]⟩ program.recipe program := by
  obtain ⟨actors⟩ := program
  cases hactors
  have hwhole : WellFormed ⟨[stage] ++ sprites⟩ := h
  have hstage : WellFormed ⟨[] ++ [stage]⟩ := hwhole.cut (by simp)
  exact (builds_actor hstage).append (builds_sprites hwhole (by simp))

theorem WellFormed.ofStage_eq (h : program.WellFormed)
    (hactors : program.actors = stage :: sprites) :
    ofStage stage.name stage.id = .ok ⟨[{ stage with handlers := [] }]⟩ := by
  have hallowed := h.names_allowed stage (hactors ▸ List.mem_cons_self)
  have hkind := h.stage_first
  rw [hactors] at hkind
  refine ofStage_eq_ok_iff.mpr
    ⟨Name.fault?_eq_none_iff.mpr ⟨hallowed, List.not_mem_nil⟩, ?_⟩
  rw [← Option.some.inj hkind]

/-- **What the check accepts can be built.** Take any tree that passes the check. A new program
    under the name of its stage, with the stage's id, is made, and out of that the recipe of the
    tree builds the tree: every one of its edits is carried out, and every id is new to the program
    when it is drawn. The ids that the recipe draws are those of the tree, each drawn once and in
    the order of the tree: for actors the ids of the sprites, and for handlers those of all
    handlers. -/
theorem checked_tree_is_built (hvalid : program.validate = .ok ()) :
    ∃ stage start, program.actors.head? = some stage ∧
      ofStage stage.name stage.id = .ok start ∧ start.Builds program.recipe program ∧
      program.recipe.filterMap madeActor? = program.actors.tail.map Actor.id ∧
      program.recipe.filterMap madeHandler? = program.handlerIds := by
  have hwell : program.WellFormed := validate_eq_ok_iff.mp hvalid
  obtain ⟨-, stage, sprites, hactors, -, -⟩ := wellFormed_iff.mp hwell
  refine ⟨stage, _, ?_, hwell.ofStage_eq hactors, hwell.builds_recipe hactors,
    program.madeActors_recipe, program.madeHandlers_recipe⟩
  rw [hactors]
  rfl

/-- The cat on the stage in eleven edits. -/
theorem cat_built : ∃ start, ofStage "Stage" ⟨1⟩ = .ok start ∧
    start.Builds
      [(.insertHandler ⟨1⟩ none .greenFlag, 1), (.setBody ⟨1⟩ ⟨1⟩ [], 0),
        (.insertHandler ⟨1⟩ (some 0) .clicked, 2), (.setBody ⟨1⟩ ⟨2⟩ ["let a = 1;", ""], 0),
        (.appendSprite "Cat", 2),
        (.insertHandler ⟨2⟩ none .startAsClone, 3), (.setBody ⟨2⟩ ⟨3⟩ [], 0),
        (.insertHandler ⟨2⟩ (some 0) .greenFlag, 4), (.setBody ⟨2⟩ ⟨4⟩ ["print(a);"], 0),
        (.insertHandler ⟨2⟩ (some 1) .clicked, 5), (.setBody ⟨2⟩ ⟨5⟩ [], 0)]
      catOnStage := by
  obtain ⟨stage, start, hstage, hstart, hbuilds, -⟩ := checked_tree_is_built validate_catOnStage
  cases hstage
  exact ⟨start, hstart, hbuilds⟩

/-- **The check accepts exactly what can be built** out of a new program. -/
theorem validate_eq_ok_iff_built : program.validate = .ok () ↔
    ∃ name id start edits, ofStage name id = .ok start ∧ start.Builds edits program := by
  rw [validate_eq_ok_iff]
  constructor
  · intro h
    obtain ⟨-, stage, sprites, hactors, -, -⟩ := wellFormed_iff.mp h
    exact ⟨stage.name, stage.id, _, program.recipe, h.ofStage_eq hactors, h.builds_recipe hactors⟩
  · intro h
    obtain ⟨name, id, start, edits, hstart, hbuilds⟩ := h
    exact hbuilds.wellFormed (wellFormed_ofStage hstart)

end Program

end Stagecraft
