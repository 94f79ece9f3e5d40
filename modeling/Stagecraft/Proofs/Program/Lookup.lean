import Mathlib.Data.List.Nodup
import Mathlib.Data.List.Perm.Basic
import Stagecraft.Proofs.Program.InPlace
import Stagecraft.Program.WellFormed

/-!
# Items found by their keys

Actors and handlers are found, changed and rearranged by their ids. Where no two items have the
same key,

* `find?_key_eq_some`: an item is what its key finds;
* `map_update_split`: to change the item of a key is to replace it in its place;
* `arrange_perm`: a rearrangement loses no item and doubles none, and
  `orderFault?_eq_none_iff` says which lists of keys are rearrangements.

The sections after that say it of the actors and handlers of a program.
-/

namespace Stagecraft

/-! ## 1. Lists with keys -/

section Keys

variable {α κ : Type} [DecidableEq κ] {key : α → κ}

theorem find?_key_eq_some : ∀ {items : List α} {x : α}, (items.map key).Nodup → x ∈ items →
    items.find? (key · = key x) = some x
  | [], _, _, hx => absurd hx List.not_mem_nil
  | y :: items, x, h, hx => by
      rw [List.map_cons, List.nodup_cons] at h
      rcases List.mem_cons.mp hx with rfl | hx
      · exact List.find?_cons_of_pos (decide_eq_true rfl)
      · have hne : key y ≠ key x := fun e => h.1 (e ▸ List.mem_map_of_mem hx)
        rw [List.find?_cons_of_neg (by simpa using hne)]
        exact find?_key_eq_some h.2 hx

/-- The place of an item that a key finds. -/
theorem exists_eq_append_of_find? {items : List α} {k : κ} {x : α}
    (h : items.find? (key · = k) = some x) :
    ∃ before after, items = before ++ x :: after ∧ key x = k := by
  obtain ⟨hk, before, after, hitems, -⟩ := List.find?_eq_some_iff_append.mp h
  exact ⟨before, after, hitems, of_decide_eq_true hk⟩

omit [DecidableEq κ] in
theorem key_ne_of_split {before after : List α} {x : α}
    (h : ((before ++ x :: after).map key).Nodup) : ∀ y ∈ before ++ after, key y ≠ key x := by
  have hperm : ((x :: (before ++ after)).map key).Nodup :=
    (List.perm_middle.map key).nodup_iff.mp h
  rw [List.map_cons, List.nodup_cons] at hperm
  exact fun y hy e => hperm.1 (e ▸ List.mem_map_of_mem hy)

/-- **To change the item of a key is to replace it in its place.** -/
theorem map_update_split {before after : List α} {x : α} (change : α → α)
    (h : ((before ++ x :: after).map key).Nodup) :
    ((before ++ x :: after).map fun y => if key y = key x then change y else y) =
      before ++ change x :: after := by
  have hne := key_ne_of_split h
  have hsame : ∀ part : List α, (∀ y ∈ part, key y ≠ key x) →
      (part.map fun y => if key y = key x then change y else y) = part := by
    intro part hpart
    exact (List.map_congr_left fun y hy => if_neg (hpart y hy)).trans (List.map_id' part)
  rw [List.map_append, List.map_cons, if_pos rfl,
    hsame before fun y hy => hne y (List.mem_append_left after hy),
    hsame after fun y hy => hne y (List.mem_append_right before hy)]

omit [DecidableEq κ] in
/-- The place of an item that is put in. -/
theorem exists_eq_append_of_insertIdx (x : α) : ∀ {items : List α} {index : Nat},
    index ≤ items.length → ∃ before after, items = before ++ after ∧ before.length = index ∧
      items.insertIdx index x = before ++ x :: after
  | items, 0, _ => ⟨[], items, rfl, rfl, rfl⟩
  | y :: items, index + 1, h => by
      obtain ⟨before, after, rfl, rfl, hput⟩ :=
        exists_eq_append_of_insertIdx x (Nat.le_of_succ_le_succ h)
      exact ⟨y :: before, after, rfl, rfl, congrArg (y :: ·) hput⟩

theorem key_update {change : α → α} (hkeep : ∀ x, key (change x) = key x) (k : κ) (x : α) :
    key (if key x = k then change x else x) = key x := by
  split
  · exact hkeep x
  · rfl

/-- A change that keeps keys leaves the list of keys as it is. -/
theorem map_key_update {change : α → α} (hkeep : ∀ x, key (change x) = key x) (items : List α)
    (k : κ) : (items.map fun x => if key x = k then change x else x).map key = items.map key := by
  rw [List.map_map]
  exact List.map_congr_left fun x _ => key_update hkeep k x

/-! ## 2. Rearranging -/

theorem map_arrange {items : List α} : ∀ {order : List κ}, (∀ k ∈ order, k ∈ items.map key) →
    (arrange key items order).map key = order
  | [], _ => rfl
  | k :: order, h => by
      obtain ⟨hk, horder⟩ := List.forall_mem_cons.mp h
      obtain ⟨x, hx, hxk⟩ := List.mem_map.mp hk
      obtain ⟨y, hy⟩ : ∃ y, items.find? (key · = k) = some y :=
        Option.isSome_iff_exists.mp (List.find?_isSome.mpr ⟨x, hx, decide_eq_true hxk⟩)
      have hyk : key y = k := by simpa using List.find?_some hy
      have hcons : arrange key items (k :: order) = y :: arrange key items order := by
        rw [arrange, List.filterMap_cons, hy]
        rfl
      rw [hcons, List.map_cons, hyk, map_arrange horder]

/-- The items rearranged in their own order are the items. -/
theorem arrange_self {items : List α} (h : (items.map key).Nodup) :
    arrange key items (items.map key) = items := by
  unfold arrange
  rw [List.filterMap_map]
  have hfind : ∀ x ∈ items, ((fun k => items.find? (key · = k)) ∘ key) x = some x :=
    fun x hx => find?_key_eq_some h hx
  rw [List.filterMap_congr hfind]
  exact List.filterMap_some

/-- A key finds the same item in any order of the items. -/
theorem find?_key_perm {items items' : List α} (h : (items.map key).Nodup)
    (hperm : items'.Perm items) (k : κ) :
    items'.find? (key · = k) = items.find? (key · = k) := by
  have h' : (items'.map key).Nodup := (hperm.map key).nodup_iff.mpr h
  cases hfound : items.find? (key · = k) with
  | none =>
      refine List.find?_eq_none.mpr fun x hx => ?_
      exact List.find?_eq_none.mp hfound x (hperm.subset hx)
  | some x =>
      obtain rfl : key x = k := by simpa using List.find?_some hfound
      exact find?_key_eq_some h' (hperm.symm.subset (List.mem_of_find?_eq_some hfound))

/-- **A rearrangement loses no item and doubles none.** -/
theorem arrange_perm {items : List α} {order : List κ} (h : (items.map key).Nodup)
    (hperm : order.Perm (items.map key)) : (arrange key items order).Perm items := by
  have hself : (arrange key items order).Perm (arrange key items (items.map key)) :=
    hperm.filterMap _
  rw [arrange_self h] at hself
  exact hself

/-- **Of two rearrangements, the second decides.** -/
theorem arrange_arrange {items : List α} {order : List κ} (h : (items.map key).Nodup)
    (hperm : order.Perm (items.map key)) (order' : List κ) :
    arrange key (arrange key items order) order' = arrange key items order' :=
  List.filterMap_congr fun k _ => find?_key_perm h (arrange_perm h hperm) k

/-- **The lists of keys that are accepted** are the permutations of the keys that there are. -/
theorem orderFault?_eq_none_iff {current proposed : List κ} (h : current.Nodup) :
    orderFault? current proposed = none ↔ proposed.Perm current := by
  unfold orderFault?
  constructor
  · intro hnone
    split at hnone
    · cases hnone
    split at hnone
    · cases hnone
    next hnodup =>
      split at hnone
      next hsame =>
        refine (List.perm_ext_iff_of_nodup (not_not.mp hnodup) h).mpr fun k => ?_
        exact ⟨hsame.1 k, hsame.2 k⟩
      next => cases hnone
  · intro hperm
    have hnodup : proposed.Nodup := hperm.nodup_iff.mpr h
    rw [if_neg (not_not.mpr hperm.length_eq.symm), if_neg (not_not.mpr hnodup),
      if_pos ⟨fun k hk => hperm.subset hk, fun k hk => hperm.symm.subset hk⟩]

end Keys

/-! ## 3. Actors and handlers -/

namespace Program

variable {program : Program} {id : ActorId} {actor : Actor} {before after : List Actor}

theorem mem_of_actor? (h : program.actor? id = some actor) : actor ∈ program.actors :=
  List.mem_of_find?_eq_some h

/-- The place of an actor that an id finds. -/
theorem exists_eq_append_of_actor? (h : program.actor? id = some actor) :
    ∃ before after, program.actors = before ++ actor :: after ∧ actor.id = id :=
  exists_eq_append_of_find? h

theorem stageId_eq {stage : Actor} {sprites : List Actor}
    (h : program.actors = stage :: sprites) : program.stageId = stage.id := by
  unfold stageId idAt
  rw [h]
  rfl

/-- The stage of a well-formed program is one of its actors. -/
theorem WellFormed.stageId_mem (h : program.WellFormed) :
    program.stageId ∈ program.actors.map Actor.id := by
  have hfirst := h.stage_first
  cases hactors : program.actors with
  | nil =>
      rw [hactors] at hfirst
      cases hfirst
  | cons stage sprites =>
      rw [stageId_eq hactors]
      exact List.mem_cons_self

theorem mem_handlerIds {id : HandlerId} : id ∈ program.handlerIds ↔
    ∃ actor ∈ program.actors, ∃ handler ∈ actor.handlers, handler.id = id := by
  simp [handlerIds]

theorem WellFormed.actor?_eq_some (h : program.WellFormed) (ha : actor ∈ program.actors) :
    program.actor? actor.id = some actor :=
  find?_key_eq_some h.actors_distinct ha

/-- **To change an actor is to replace it in its place.** -/
theorem WellFormed.updateActor_eq (h : program.WellFormed)
    (hactors : program.actors = before ++ actor :: after) (change : Actor → Actor) :
    program.updateActor actor.id change = ⟨before ++ change actor :: after⟩ := by
  have hnodup := h.actors_distinct
  rw [hactors] at hnodup
  unfold updateActor
  rw [hactors, map_update_split change hnodup]

/-- A change that does nothing to the actor of an id leaves the program as it is. -/
theorem updateActor_eq_self {change : Actor → Actor}
    (h : ∀ actor ∈ program.actors, actor.id = id → change actor = actor) :
    program.updateActor id change = program := by
  refine congrArg Program.mk ((List.map_congr_left fun actor ha => ?_).trans (List.map_id' _))
  split
  next hid => exact h actor ha hid
  next => rfl

/-- Of two changes of one actor, the second is made to what the first has left. -/
theorem updateActor_updateActor {first second : Actor → Actor}
    (hid : ∀ actor, (first actor).id = actor.id) :
    (program.updateActor id first).updateActor id second =
      program.updateActor id (second ∘ first) := by
  refine congrArg Program.mk ((List.map_map ..).trans (List.map_congr_left fun actor _ => ?_))
  dsimp only [Function.comp_apply]
  by_cases h : actor.id = id
  · rw [if_pos h, if_pos h, if_pos ((hid actor).trans h)]
  · rw [if_neg h, if_neg h, if_neg h]

/-- Every actor is found as it is after a change. -/
theorem actor?_updateActor_at {change : Actor → Actor}
    (hid : ∀ actor, (change actor).id = actor.id) (other : ActorId) :
    (program.updateActor id change).actor? other =
      (program.actor? other).map fun actor => if actor.id = id then change actor else actor := by
  unfold actor? updateActor
  rw [List.find?_map]
  simp only [Function.comp_def, key_update hid id]

/-- An actor that was changed is found as it is now. -/
theorem actor?_updateActor {change : Actor → Actor} (hid : ∀ actor, (change actor).id = actor.id) :
    (program.updateActor id change).actor? id = (program.actor? id).map change := by
  rw [actor?_updateActor_at hid]
  cases hfound : program.actor? id with
  | none => rfl
  | some actor => exact congrArg some (if_pos (by simpa using List.find?_some hfound))

/-- In a well-formed program an id is one actor's. -/
theorem WellFormed.eq_of_id_eq (h : program.WellFormed) {other : Actor}
    (ha : actor ∈ program.actors) (hother : other ∈ program.actors) (hid : other.id = actor.id) :
    other = actor :=
  List.inj_on_of_nodup_map h.actors_distinct hother ha hid

/-- An actor and one of its handlers are there exactly if neither is missing. -/
theorem missing?_eq_none_iff {handler : HandlerId} : program.missing? id handler = none ↔
    ∃ actor, program.actor? id = some actor ∧ ∃ found, actor.handler? handler = some found := by
  unfold missing?
  cases program.actor? id with
  | none => simp
  | some actor => cases hh : actor.handler? handler <;> simp [hh]

end Program

end Stagecraft
