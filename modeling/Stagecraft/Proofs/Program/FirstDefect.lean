import Stagecraft.Proofs.Program.Preservation

/-!
# Which defect the check reports

The check stops at the first actor that breaks a rule beside those before it. So what it reports is
told by that actor and what has been met up to there, whatever follows.

* `Name.fault?_mono` and `Name.fault?_eq_taken`: how the reason why a name is refused depends on the
  names that are taken;
* `Seen.Admits.addActors_eq` and `Seen.addHandlers_append_of_ok`: the loops pass over what follows
  the rules;
* `Program.validate_eq_error`: **the check reports the defect of the first actor that has one**.
-/

namespace Stagecraft

/-! ## 1. Names -/

namespace Name

variable {taken more : List String} {name : String} {fault : NameFault}

/-- A name that is refused is refused for the same reason where more names are taken. -/
theorem fault?_mono (h : fault? taken name = some fault) (hsub : taken ⊆ more) :
    fault? more name = some fault := by
  unfold fault? at h ⊢
  split
  next hblank => rwa [if_pos hblank] at h
  next hblank =>
    rw [if_neg hblank] at h
    split
    next hid => rwa [if_pos hid] at h
    next hid =>
      rw [if_neg hid] at h
      split
      next hres => rwa [if_pos hres] at h
      next hres =>
        rw [if_neg hres] at h
        -- only the last rule looks at the names that are taken
        split at h
        next htaken =>
          rw [if_pos (List.contains_iff_mem.mpr (hsub (List.contains_iff_mem.mp htaken))), h]
        next => cases h

/-- An allowed name that is taken is refused for that. -/
theorem fault?_eq_taken (hallowed : Allowed name) (htaken : name ∈ taken) :
    fault? taken name = some (.taken name) := by
  obtain ⟨hid, hres⟩ := hallowed
  unfold fault? isReserved
  rw [not_all_blank_of_isIdentifier hid, hid]
  simp [hres, htaken]

end Name

/-! ## 2. What the loops pass over -/

theorem AllNew.mono {κ : Type} {met met' keys : List κ} (h : AllNew met keys) (hsub : met' ⊆ met) :
    AllNew met' keys :=
  ⟨h.1, fun key hkey hmet => h.2 key hkey (hsub hmet)⟩

namespace Seen

variable {seen next : Seen} {defect : Defect}

/-- All actors are sprites, except that one at index zero may be the stage. -/
def KindsFrom : Nat → List Actor → Prop
  | _, [] => True
  | index, actor :: actors => (0 < index → actor.kind = .sprite) ∧ KindsFrom (index + 1) actors

theorem kindsFrom_append {actors more : List Actor} {index : Nat} :
    KindsFrom index (actors ++ more) ↔
      KindsFrom index actors ∧ KindsFrom (index + actors.length) more := by
  induction actors generalizing index with
  | nil => simp [KindsFrom]
  | cons actor actors ih =>
      rw [List.cons_append, KindsFrom, ih, KindsFrom, and_assoc, List.length_cons,
        Nat.add_right_comm, Nat.add_assoc]

theorem kindsFrom_of_forall {actors : List Actor} (h : ∀ actor ∈ actors, actor.kind = .sprite) :
    ∀ index, KindsFrom index actors := by
  induction actors with
  | nil => exact fun _ => trivial
  | cons actor actors ih =>
      obtain ⟨hactor, hactors⟩ := List.forall_mem_cons.mp h
      exact fun index => ⟨fun _ => hactor, ih hactors (index + 1)⟩

/-- **The loop passes over actors that follow the rules.** -/
theorem Admits.addActors_eq {actors : List Actor} (h : seen.Admits actors) {index : Nat}
    (hkinds : KindsFrom index actors) (more : List Actor) :
    seen.addActors index (actors ++ more) =
      (seen.after actors).addActors (index + actors.length) more := by
  induction actors generalizing seen index with
  | nil => rfl
  | cons actor actors ih =>
      obtain ⟨hactor, hactors⟩ := admits_cons.mp h
      obtain ⟨hkind, hkinds⟩ := hkinds
      have hone : seen.addActor index actor = .ok (seen.after [actor]) :=
        addActor_eq_ok_iff.mpr ⟨⟨hkind, hactor⟩, rfl⟩
      have hafter : (seen.after [actor]).after actors = seen.after (actor :: actors) := by
        simp [after]
      rw [List.cons_append, addActors, hone]
      dsimp only
      rw [ih hactors hkinds, hafter, List.length_cons, Nat.add_right_comm, Nat.add_assoc]

/-- The loop over handlers passes over those that follow the rules. -/
theorem addHandlers_append_of_ok {handlers : List Handler}
    (h : seen.addHandlers handlers = .ok next) (more : List Handler) :
    seen.addHandlers (handlers ++ more) = next.addHandlers more := by
  induction handlers generalizing seen with
  | nil =>
      cases h
      rfl
  | cons handler handlers ih =>
      rw [addHandlers] at h
      rw [List.cons_append, addHandlers]
      cases hone : seen.addHandler handler with
      | error defect =>
          rw [hone] at h
          cases h
      | ok met =>
          rw [hone] at h
          exact ih h

/-! ## 3. What one actor is refused for -/

variable {index : Nat} {actor : Actor}

/-- Where kind and id are in order, the name is looked at, and then the handlers. -/
theorem addActor_eq_of_new (hkind : 0 < index → actor.kind = .sprite)
    (hid : actor.id ∉ seen.actors) :
    seen.addActor index actor =
      match Name.fault? seen.names actor.name with
      | some fault => .error (.badName actor.name fault)
      | none => addHandlers ⟨actor.id :: seen.actors, seen.handlers, actor.name :: seen.names⟩
          actor.handlers := by
  have hstage : ¬ (0 < index ∧ actor.kind = .stage) := by
    intro h
    rw [hkind h.1] at h
    exact ActorKind.noConfusion h.2
  unfold addActor
  exact (if_neg hstage).trans (if_neg hid)

/-- **A line break is reported** at the first handler that has one. -/
theorem addHandlers_eq_brokenLine {front back : List Handler} {handler : Handler} {line : Nat}
    (hnew : AllNew seen.handlers ((front ++ handler :: back).map Handler.id))
    (hfront : ∀ before ∈ front, ∀ line ∈ before.body, Text.hasBreak line = false)
    (hbroken : brokenLine? handler.body = some line) :
    seen.addHandlers (front ++ handler :: back) = .error (.brokenLine handler.id line) := by
  rw [List.map_append, List.map_cons, allNew_append, allNew_cons] at hnew
  obtain ⟨hids, hid, -⟩ := hnew
  rw [addHandlers_append_of_ok (addHandlers_eq_ok_iff.mpr ⟨⟨hids, hfront⟩, rfl⟩), addHandlers,
    addHandler, if_neg hid, hbroken]

end Seen

/-! ## 4. What the check reports -/

namespace Program

variable {before after : List Actor} {actor : Actor} {defect : Defect}

theorem StageFirst.kindsFrom {actors : List Actor} (h : StageFirst actors) :
    Seen.KindsFrom 0 actors := by
  obtain ⟨stage, sprites, rfl, -, hsprites⟩ := h
  exact ⟨fun h0 => absurd h0 (Nat.lt_irrefl 0), Seen.kindsFrom_of_forall hsprites _⟩

/-- **The check reports the defect of the first actor that has one**, beside the actors before
    it. What follows is not looked at. -/
theorem validate_eq_error_of_prefix
    (hstage : (before ++ actor :: after).head?.map Actor.kind = some .stage)
    (hbefore : Seen.nothing.Admits before) (hkinds : Seen.KindsFrom 0 before)
    (hactor : (Seen.nothing.after before).addActor before.length actor = .error defect) :
    validate ⟨before ++ actor :: after⟩ = .error defect := by
  have hloop : Seen.nothing.addActors 0 (before ++ actor :: after) = .error defect := by
    rw [hbefore.addActors_eq hkinds, Seen.addActors, Nat.zero_add, hactor]
  unfold validate defect?
  cases hactors : before ++ actor :: after with
  | nil => simp at hactors
  | cons stage sprites =>
      rw [hactors] at hstage hloop
      have hkind : stage.kind = .stage := Option.some.inj hstage
      simp only [hkind, if_true, hloop]

theorem validate_eq_error (hstage : StageFirst (before ++ actor :: after))
    (hbefore : Seen.nothing.Admits before)
    (hactor : (Seen.nothing.after before).addActor before.length actor = .error defect) :
    validate ⟨before ++ actor :: after⟩ = .error defect :=
  validate_eq_error_of_prefix (stageFirst_iff.mp hstage).1 hbefore
    (Seen.kindsFrom_append.mp hstage.kindsFrom).1 hactor

end Program

end Stagecraft
