import Stagecraft.Proofs.Program.Undo

/-!
# To reorder is to permute

An order of actors, or of the handlers of an actor, is accepted by counting and by comparing sets of
ids, and carried out by looking up one id after the other. Here it is said what comes of that.

* `OrderFault.IsFirst`: which reason speaks first against a list of ids as a new order, and
  `OrderFault.isFirst_iff`, which says that it is the one that is given;
* `Reordered`: the items that there were, in the new order, each under its id;
* `Edit.Permutes`: an edit accepts exactly the permutations, carries them out, and is otherwise
  refused for the first reason; `Edit.permutes_of_outcome` proves it for both edits at once;
* `Program.reordering_is_permuting` is about the two edits on any valid program.
-/

namespace Stagecraft

/-! ## 1. What speaks against an order -/

section Orders

variable {α κ : Type} [DecidableEq κ] {key : α → κ} {current proposed order : List κ}
  {items : List α} {leads : Prop} {reason : OrderFault}

/-- **The first reason** against `proposed` as a new order of `current`. Whether the right one
    `leads` is asked last. -/
inductive OrderFault.IsFirst (current proposed : List κ) (leads : Prop) : OrderFault → Prop where
  | length (h : proposed.length ≠ current.length) :
      IsFirst current proposed leads (.length current.length proposed.length)
  | repeated (hlength : proposed.length = current.length) (h : ¬ proposed.Nodup) :
      IsFirst current proposed leads .repeated
  | different (hlength : proposed.length = current.length) (hnodup : proposed.Nodup)
      (h : ¬ ∀ key, key ∈ proposed ↔ key ∈ current) : IsFirst current proposed leads .different
  | stageMoved (hlength : proposed.length = current.length) (hnodup : proposed.Nodup)
      (hsame : ∀ key, key ∈ proposed ↔ key ∈ current) (h : ¬ leads) :
      IsFirst current proposed leads .stageMoved

/-- **The reason that is given is the first one**, and the one about who leads is given last. -/
theorem OrderFault.isFirst_iff : OrderFault.IsFirst current proposed leads reason ↔
    orderFault? current proposed = some reason ∨
      orderFault? current proposed = none ∧ ¬ leads ∧ reason = .stageMoved := by
  unfold orderFault?
  constructor
  · intro h
    cases h with
    | length h => exact .inl (if_pos (Ne.symm h))
    | repeated hlength h => exact .inl (by rw [if_neg (not_not.mpr hlength.symm), if_pos h])
    | different hlength hnodup h =>
        left
        rw [if_neg (not_not.mpr hlength.symm), if_neg (not_not.mpr hnodup), if_neg]
        exact fun hsame => h fun k => ⟨hsame.1 k, hsame.2 k⟩
    | stageMoved hlength hnodup hsame h =>
        right
        rw [if_neg (not_not.mpr hlength.symm), if_neg (not_not.mpr hnodup), if_pos]
        · exact ⟨rfl, h, rfl⟩
        · exact ⟨fun k hk => (hsame k).mp hk, fun k hk => (hsame k).mpr hk⟩
  · intro h
    by_cases hlength : current.length = proposed.length
    · rw [if_neg (not_not.mpr hlength)] at h
      by_cases hnodup : proposed.Nodup
      · rw [if_neg (not_not.mpr hnodup)] at h
        split at h
        next hsame =>
          rcases h with h | ⟨-, hleads, rfl⟩
          · cases h
          · exact .stageMoved hlength.symm hnodup (fun k => ⟨hsame.1 k, hsame.2 k⟩) hleads
        next hsame =>
          rcases h with h | ⟨h, -⟩
          · cases h
            refine .different hlength.symm hnodup fun hall => hsame ?_
            exact ⟨fun k hk => (hall k).mp hk, fun k hk => (hall k).mpr hk⟩
          · cases h
      · rw [if_pos hnodup] at h
        rcases h with h | ⟨h, -⟩ <;> cases h
        exact .repeated hlength.symm hnodup
    · rw [if_pos hlength] at h
      rcases h with h | ⟨h, -⟩ <;> cases h
      exact .length (Ne.symm hlength)

/-! ## 2. Items in a new order -/

/-- **The items that there were, in the order of the keys**: none is lost, none is there twice, and
    every key has the item that it had. -/
structure Reordered (key : α → κ) (items : List α) (order : List κ) (items' : List α) : Prop where
  in_order : items'.map key = order
  same_items : items'.Perm items
  same_by_key : ∀ k, items'.find? (key · = k) = items.find? (key · = k)

theorem reordered_arrange (hnodup : (items.map key).Nodup) (hperm : order.Perm (items.map key)) :
    Reordered key items order (arrange key items order) where
  in_order := map_arrange fun _ hk => hperm.subset hk
  same_items := arrange_perm hnodup hperm
  same_by_key := find?_key_perm hnodup (arrange_perm hnodup hperm)

/-! ## 3. Edits that permute -/

/-- **An edit does nothing but permute** the items of a program, which are `made` into the program
    that it leaves. -/
structure Edit.Permutes (edit : Edit) (program : Program) (key : α → κ) (items : List α)
    (order : List κ) (leads : Prop) (made : List α → Program) : Prop where
  accepted : ∀ fresh, (∃ changed, edit.apply fresh program = .ok (changed, .done)) ↔
    order.Perm (items.map key) ∧ leads
  carried_out : ∀ fresh changed reply, edit.apply fresh program = .ok (changed, reply) →
    ∃ items', Reordered key items order items' ∧ changed = made items'
  refused : ∀ fresh fault, edit.apply fresh program = .error fault ↔
    ∃ reason, OrderFault.IsFirst (items.map key) order leads reason ∧ fault = .badOrder reason
  kept : ∀ fresh fault, edit.apply fresh program = .error fault → edit.after fresh program = program

theorem Edit.permutes_of_outcome [Decidable leads] {edit : Edit} {program : Program}
    {made : List α → Program} (hnodup : (items.map key).Nodup)
    (houtcome : ∀ fresh, edit.apply fresh program =
      match orderFault? (items.map key) order with
      | some reason => .error (.badOrder reason)
      | none =>
        if leads then .ok (made (arrange key items order), .done)
        else .error (.badOrder .stageMoved)) :
    edit.Permutes program key items order leads made := by
  have hperm : orderFault? (items.map key) order = none ↔ order.Perm (items.map key) :=
    orderFault?_eq_none_iff hnodup
  refine ⟨fun fresh => ?_, fun fresh changed reply hok => ?_, fun fresh fault => ?_,
    fun fresh fault herror => ?_⟩
  · rw [houtcome fresh, ← hperm]
    cases orderFault? (items.map key) order with
    | some reason => simp
    | none => by_cases hleads : leads <;> simp [hleads]
  · rw [houtcome fresh] at hok
    cases horder : orderFault? (items.map key) order with
    | some reason =>
        rw [horder] at hok
        cases hok
    | none =>
        rw [horder] at hok
        by_cases hleads : leads
        · simp only [hleads, if_true] at hok
          cases hok
          exact ⟨_, reordered_arrange hnodup (hperm.mp horder), rfl⟩
        · simp only [hleads, if_false] at hok
          cases hok
  · rw [houtcome fresh]
    simp only [OrderFault.isFirst_iff]
    cases orderFault? (items.map key) order with
    | some reason => simp [eq_comm]
    | none => by_cases hleads : leads <;> simp [hleads, eq_comm]
  · exact Edit.after_of_error herror

end Orders

namespace Program

variable {program changed : Program}

/-! ## 4. Actors and handlers -/

theorem WellFormed.reorderActors_permutes (h : program.WellFormed) (order : List ActorId) :
    (Edit.reorderActors order).Permutes program Actor.id program.actors order
      (order.head? = some program.stageId) Program.mk := by
  refine Edit.permutes_of_outcome h.actors_distinct fun fresh => ?_
  rw [Edit.apply_eq_result]
  show (·, Reply.done) <$> program.reorderActors order = _
  unfold Program.reorderActors
  cases orderFault? (program.actors.map Actor.id) order with
  | some reason => rfl
  | none => by_cases hhead : order.head? = some program.stageId <;> simp [hhead]

theorem WellFormed.reorderHandlers_permutes (h : program.WellFormed) {before after : List Actor}
    {actor : Actor} (hactors : program.actors = before ++ actor :: after)
    (order : List HandlerId) :
    (Edit.reorderHandlers actor.id order).Permutes program Handler.id actor.handlers order True
      fun handlers => ⟨before ++ { actor with handlers := handlers } :: after⟩ := by
  have hmem : actor ∈ program.actors := hactors ▸ List.mem_append_right _ List.mem_cons_self
  refine Edit.permutes_of_outcome (h.nodup_handlers hmem) fun fresh => ?_
  rw [Edit.apply_eq_result]
  show (·, Reply.done) <$> program.reorderHandlers actor.id order = _
  unfold Program.reorderHandlers Program.updateHandlers
  simp only [h.actor?_eq_some hmem, h.updateActor_eq hactors]
  cases orderFault? (actor.handlers.map Handler.id) order with
  | some reason => rfl
  | none => rfl

/-- Of two orders of the actors, the second decides. -/
theorem WellFormed.reorderActors_twice (h : program.WellFormed) {last : Program}
    {first second : List ActorId} (hfirst : program.reorderActors first = .ok changed)
    (hsecond : changed.reorderActors second = .ok last) :
    program.reorderActors second = .ok last := by
  have hchanged := h.reorderActors hfirst
  obtain ⟨horder, hhead, rfl⟩ := reorderActors_eq_ok_iff.mp hfirst
  obtain ⟨horder', hhead', rfl⟩ := reorderActors_eq_ok_iff.mp hsecond
  have hperm := (orderFault?_eq_none_iff h.actors_distinct).mp horder
  have hperm' := (orderFault?_eq_none_iff hchanged.actors_distinct).mp horder'
  have hids : (arrange Actor.id program.actors first).map Actor.id = first :=
    map_arrange fun k hk => hperm.subset hk
  have hstage : some program.stageId =
      some (stageId ⟨arrange Actor.id program.actors first⟩) := by
    rw [← hchanged.head?_ids, ← hhead, hids]
  refine reorderActors_eq_ok_iff.mpr ⟨?_, hhead'.trans hstage.symm, ?_⟩
  · rw [hids] at hperm'
    exact (orderFault?_eq_none_iff h.actors_distinct).mpr (hperm'.trans hperm)
  · rw [arrange_arrange h.actors_distinct hperm]

/-- Of two orders of an actor's handlers, the second decides. -/
theorem WellFormed.reorderHandlers_twice (h : program.WellFormed) {id : ActorId} {last : Program}
    {first second : List HandlerId} (hfirst : program.reorderHandlers id first = .ok changed)
    (hsecond : changed.reorderHandlers id second = .ok last) :
    program.reorderHandlers id second = .ok last := by
  obtain ⟨actor, ha, horder, rfl⟩ := reorderHandlers_eq_ok_iff.mp hfirst
  obtain ⟨actor', ha', horder', rfl⟩ := reorderHandlers_eq_ok_iff.mp hsecond
  rw [actor?_updateHandlers ha] at ha'
  cases ha'
  have hnodup := h.nodup_handlers (mem_of_actor? ha)
  have hperm := (orderFault?_eq_none_iff hnodup).mp horder
  have hids : (arrange Handler.id actor.handlers first).map Handler.id = first :=
    map_arrange fun k hk => hperm.subset hk
  dsimp only at horder'
  rw [hids] at horder'
  refine reorderHandlers_eq_ok_iff.mpr ⟨actor, ha, ?_, ?_⟩
  · have hperm' := (orderFault?_eq_none_iff (hperm.nodup_iff.mpr hnodup)).mp horder'
    exact (orderFault?_eq_none_iff hnodup).mpr (hperm'.trans hperm)
  · obtain ⟨before, after, hactors, rfl⟩ := exists_eq_append_of_actor? ha
    have hkeep : ∀ a : Actor,
        { a with handlers := arrange Handler.id a.handlers first }.id = a.id := fun _ => rfl
    unfold Program.updateHandlers
    rw [updateActor_updateActor hkeep, h.updateActor_eq hactors, h.updateActor_eq hactors]
    dsimp only [Function.comp_apply]
    rw [arrange_arrange hnodup hperm]

/-- **To reorder is to permute**, in any program that passed the check. A new order of the actors is
    accepted exactly if it is a permutation of their ids with the stage in front, and a new order
    of an actor's handlers exactly if it is a permutation of theirs. The actors, or the handlers of
    that actor, then stand in that order, the same as before, and all else is as it was. Any other
    list is refused for the first of the reasons that speak against it, and changes nothing. Of two
    orders that are accepted one after the other, the second decides. -/
theorem reordering_is_permuting (hvalid : program.validate = .ok ()) :
    (∀ order : List ActorId,
      (Edit.reorderActors order).Permutes program Actor.id program.actors order
        (order.head? = some program.stageId) Program.mk) ∧
    (∀ (before after : List Actor) (actor : Actor), program.actors = before ++ actor :: after →
      ∀ order : List HandlerId,
        (Edit.reorderHandlers actor.id order).Permutes program Handler.id actor.handlers order True
          fun handlers => ⟨before ++ { actor with handlers := handlers } :: after⟩) ∧
    (∀ (first second : List ActorId) (changed last : Program),
      program.reorderActors first = .ok changed → changed.reorderActors second = .ok last →
        program.reorderActors second = .ok last) ∧
    (∀ (id : ActorId) (first second : List HandlerId) (changed last : Program),
      program.reorderHandlers id first = .ok changed →
        changed.reorderHandlers id second = .ok last →
          program.reorderHandlers id second = .ok last) := by
  have h : program.WellFormed := validate_eq_ok_iff.mp hvalid
  refine ⟨h.reorderActors_permutes, fun before after actor hactors order => ?_, ?_, ?_⟩
  · exact h.reorderHandlers_permutes hactors order
  · exact fun first second changed last => h.reorderActors_twice
  · exact fun id first second changed last => h.reorderHandlers_twice

/-- The handlers of the cat are put in another order. An order in which one of them is left out and
    another named twice has the right length, and it is refused for the repetition. The cat cannot
    be put in front of the stage. -/
theorem cat_handlers_reordered : ∃ changed,
    (Edit.reorderHandlers ⟨2⟩ [⟨5⟩, ⟨3⟩, ⟨4⟩]).apply 0 catOnStage = .ok (changed, .done) ∧
    (Edit.reorderHandlers ⟨2⟩ [⟨5⟩, ⟨3⟩, ⟨3⟩]).apply 0 catOnStage =
      .error (.badOrder .repeated) ∧
    (Edit.reorderActors [⟨2⟩, ⟨1⟩]).apply 0 catOnStage = .error (.badOrder .stageMoved) := by
  obtain ⟨hactors, hhandlers, -⟩ := reordering_is_permuting validate_catOnStage
  have hcat := hhandlers (catOnStage.actors.take 1) [] _ rfl
  obtain ⟨changed, hok⟩ := ((hcat [⟨5⟩, ⟨3⟩, ⟨4⟩]).accepted 0).mpr ⟨by decide, trivial⟩
  refine ⟨changed, hok, ?_, ?_⟩
  · exact ((hcat [⟨5⟩, ⟨3⟩, ⟨3⟩]).refused 0 _).mpr ⟨_, .repeated rfl (by decide), rfl⟩
  · refine ((hactors [⟨2⟩, ⟨1⟩]).refused 0 _).mpr ⟨_, .stageMoved rfl (by decide) ?_ ?_, rfl⟩
    · exact fun id => List.Perm.mem_iff (by decide)
    · decide

end Program

end Stagecraft
