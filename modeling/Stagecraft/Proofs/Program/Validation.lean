import Stagecraft.Program.Defect
import Stagecraft.Program.WellFormed

/-!
# The check decides the rules

`Program.validate` goes through a tree once and remembers what it has met; the rules of
`Program.WellFormed` speak of the tree as a whole. Here the two are brought together:

* `Name.fault?_eq_none_iff`: when a name is accepted beside others;
* `Seen.Admits`: the rules for actors that follow others already met, and
  `Seen.addActors_isOk_iff`, the loop's invariant;
* `Program.validate_eq_ok_iff`: **the check accepts exactly the well-formed trees**.
-/

namespace Stagecraft

/-! ## 1. Names -/

namespace Name

/-- The letters and the underscore, by their code points. -/
theorem isInitial_iff {c : Char} : isInitial c = true ↔
    (65 ≤ c.toNat ∧ c.toNat ≤ 90) ∨ (97 ≤ c.toNat ∧ c.toNat ≤ 122) ∨ c.toNat = 95 := by
  have hu : c = '_' ↔ c.toNat = 95 := by rw [← Char.toNat_inj]; rfl
  show ((decide (65 ≤ c.val ∧ c.val ≤ 90) || (97 ≤ c.val && c.val ≤ 122)) || c = '_') = true ↔ _
  simp only [Bool.or_eq_true, Bool.and_eq_true, decide_eq_true_eq, UInt32.le_iff_toNat_le, hu,
    or_assoc]
  exact Iff.rfl

theorem isBlank_of_isInitial {c : Char} (h : isInitial c = true) : Text.isBlank c = false := by
  have hc := isInitial_iff.mp h
  simp only [Text.isBlank, Text.inRanges, Text.blankRanges, List.any_cons, List.any_nil,
    Bool.or_false, Bool.or_eq_false_iff, Bool.and_eq_false_iff, decide_eq_false_iff_not]
  omega

theorem not_all_blank_of_isIdentifier {cs : List Char} (h : isIdentifier cs = true) :
    cs.all Text.isBlank = false := by
  cases cs with
  | nil => cases h
  | cons c cs =>
      have hc : isInitial c = true := (Bool.and_eq_true_iff.mp h).1
      rw [List.all_cons, isBlank_of_isInitial hc, Bool.false_and]

/-- **A name is accepted beside others** if it is allowed and none of them. -/
theorem fault?_eq_none_iff {taken : List String} {name : String} :
    fault? taken name = none ↔ Allowed name ∧ name ∉ taken := by
  unfold fault? Allowed isReserved
  constructor
  · intro h
    split at h
    · cases h
    split at h
    · cases h
    next hid =>
      split at h
      · cases h
      next hres =>
        split at h
        · cases h
        next htaken => simp_all
  · intro h
    obtain ⟨⟨hid, hres⟩, htaken⟩ := h
    rw [not_all_blank_of_isIdentifier hid, hid]
    simp [hres, htaken]

end Name

/-! ## 2. Keys that are new -/

/-- No key occurs twice, and none has been met. -/
def AllNew {κ : Type} (met keys : List κ) : Prop :=
  keys.Nodup ∧ ∀ key ∈ keys, key ∉ met

section AllNew

variable {κ : Type} {met keys more : List κ} {key : κ}

@[simp] theorem allNew_nil : AllNew met [] := ⟨List.nodup_nil, fun _ h => absurd h List.not_mem_nil⟩

@[simp] theorem nil_allNew : AllNew [] keys ↔ keys.Nodup :=
  ⟨fun h => h.1, fun h => ⟨h, fun _ _ => List.not_mem_nil⟩⟩

theorem allNew_append :
    AllNew met (keys ++ more) ↔ AllNew met keys ∧ AllNew (keys.reverse ++ met) more := by
  unfold AllNew
  simp only [List.nodup_append, List.mem_append, List.mem_reverse]
  constructor
  · intro h
    obtain ⟨⟨hk, hm, hkm⟩, hmet⟩ := h
    exact ⟨⟨hk, fun x hx => hmet x (Or.inl hx)⟩, hm, fun x hx hor =>
      hor.elim (fun h => hkm x h x hx rfl) (hmet x (Or.inr hx))⟩
  · intro h
    obtain ⟨⟨hk, hkmet⟩, hm, hmmet⟩ := h
    refine ⟨⟨hk, hm, fun x hx y hy e => hmmet y hy (Or.inl (e ▸ hx))⟩, fun x hx => ?_⟩
    exact hx.elim (hkmet x) fun h hmet => hmmet x h (Or.inr hmet)

theorem allNew_cons : AllNew met (key :: keys) ↔ key ∉ met ∧ AllNew (key :: met) keys := by
  rw [← List.singleton_append, allNew_append]
  simp [AllNew]

end AllNew

/-! ## 3. The loop -/

namespace Seen

/-- What has been met after some actors. -/
def after (seen : Seen) (actors : List Actor) : Seen :=
  ⟨(actors.map Actor.id).reverse ++ seen.actors,
    (actors.flatMap fun actor => actor.handlers.map Handler.id).reverse ++ seen.handlers,
    (actors.map Actor.name).reverse ++ seen.names⟩

theorem mem_actors_after {id : ActorId} {actors : List Actor} :
    id ∈ (nothing.after actors).actors ↔ ∃ actor ∈ actors, actor.id = id := by
  simp [after, nothing]

theorem mem_handlers_after {id : HandlerId} {actors : List Actor} :
    id ∈ (nothing.after actors).handlers ↔
      ∃ actor ∈ actors, ∃ handler ∈ actor.handlers, handler.id = id := by
  simp [after, nothing]

theorem mem_names_after {name : String} {actors : List Actor} :
    name ∈ (nothing.after actors).names ↔ ∃ actor ∈ actors, actor.name = name := by
  simp [after, nothing]

/-- The rules for actors that follow those already met. -/
structure Admits (seen : Seen) (actors : List Actor) : Prop where
  actors_new : AllNew seen.actors (actors.map Actor.id)
  handlers_new : AllNew seen.handlers (actors.flatMap fun actor => actor.handlers.map Handler.id)
  names_new : AllNew seen.names (actors.map Actor.name)
  names_allowed : ∀ actor ∈ actors, Name.Allowed actor.name
  lines_unbroken : ∀ actor ∈ actors, ∀ handler ∈ actor.handlers,
    ∀ line ∈ handler.body, Text.hasBreak line = false

variable {seen last : Seen}

theorem brokenLine?_eq_none_iff {lines : List String} :
    brokenLine? lines = none ↔ ∀ line ∈ lines, Text.hasBreak line = false :=
  List.findIdx?_eq_none_iff

theorem addHandler_eq_ok_iff {handler : Handler} :
    seen.addHandler handler = .ok last ↔
      (handler.id ∉ seen.handlers ∧ ∀ line ∈ handler.body, Text.hasBreak line = false) ∧
        { seen with handlers := handler.id :: seen.handlers } = last := by
  rw [← brokenLine?_eq_none_iff]
  unfold addHandler
  by_cases hid : handler.id ∈ seen.handlers
  · simp [hid]
  · cases hb : brokenLine? handler.body <;> simp [hid]

theorem addHandlers_eq_ok_iff {handlers : List Handler} :
    seen.addHandlers handlers = .ok last ↔
      (AllNew seen.handlers (handlers.map Handler.id) ∧
        ∀ handler ∈ handlers, ∀ line ∈ handler.body, Text.hasBreak line = false) ∧
        { seen with handlers := (handlers.map Handler.id).reverse ++ seen.handlers } = last := by
  induction handlers generalizing seen with
  | nil => simp [addHandlers]
  | cons handler handlers ih =>
      rw [addHandlers, List.map_cons, allNew_cons]
      cases h : seen.addHandler handler with
      | error defect =>
          have hno : ¬ (handler.id ∉ seen.handlers ∧
              ∀ line ∈ handler.body, Text.hasBreak line = false) := fun hyes => by
            rw [addHandler_eq_ok_iff.mpr ⟨hyes, rfl⟩] at h
            cases h
          simp only [reduceCtorEq, List.forall_mem_cons, false_iff]
          exact fun hall => hno ⟨hall.1.1.1, hall.1.2.1⟩
      | ok next =>
          obtain ⟨⟨hid, hbody⟩, rfl⟩ := addHandler_eq_ok_iff.mp h
          simp only [ih, List.forall_mem_cons, List.reverse_cons,
            List.append_assoc, List.singleton_append, hid, iff_true_intro hbody, true_and,
            not_false_eq_true]

theorem admits_singleton {actor : Actor} : seen.Admits [actor] ↔
    actor.id ∉ seen.actors ∧ (Name.Allowed actor.name ∧ actor.name ∉ seen.names) ∧
      AllNew seen.handlers (actor.handlers.map Handler.id) ∧
      ∀ handler ∈ actor.handlers, ∀ line ∈ handler.body, Text.hasBreak line = false := by
  constructor
  · intro h
    obtain ⟨ha, hh, hn, hal, hl⟩ := h
    exact ⟨(allNew_cons.mp ha).1, ⟨hal _ List.mem_cons_self, (allNew_cons.mp hn).1⟩,
      by simpa using hh, hl _ List.mem_cons_self⟩
  · intro h
    obtain ⟨ha, ⟨hal, hn⟩, hh, hl⟩ := h
    exact ⟨allNew_cons.mpr ⟨ha, allNew_nil⟩, by simpa using hh, allNew_cons.mpr ⟨hn, allNew_nil⟩,
      by simpa using hal, by simpa using hl⟩

/-- **Actors and those that follow them**: the ones that follow come after what has been met with
    the first. -/
theorem admits_append {actors more : List Actor} :
    seen.Admits (actors ++ more) ↔ seen.Admits actors ∧ (seen.after actors).Admits more := by
  constructor
  · intro h
    obtain ⟨ha, hh, hn, hal, hl⟩ := h
    rw [List.map_append, allNew_append] at ha hn
    rw [List.flatMap_append, allNew_append] at hh
    rw [List.forall_mem_append] at hal hl
    exact ⟨⟨ha.1, hh.1, hn.1, hal.1, hl.1⟩, ⟨ha.2, hh.2, hn.2, hal.2, hl.2⟩⟩
  · intro h
    obtain ⟨⟨ha, hh, hn, hal, hl⟩, ⟨ha', hh', hn', hal', hl'⟩⟩ := h
    refine ⟨?_, ?_, ?_, ?_, ?_⟩
    · rw [List.map_append]
      exact allNew_append.mpr ⟨ha, ha'⟩
    · rw [List.flatMap_append]
      exact allNew_append.mpr ⟨hh, hh'⟩
    · rw [List.map_append]
      exact allNew_append.mpr ⟨hn, hn'⟩
    · exact List.forall_mem_append.mpr ⟨hal, hal'⟩
    · exact List.forall_mem_append.mpr ⟨hl, hl'⟩

theorem admits_cons {actor : Actor} {actors : List Actor} :
    seen.Admits (actor :: actors) ↔ seen.Admits [actor] ∧ (seen.after [actor]).Admits actors :=
  show seen.Admits ([actor] ++ actors) ↔ _ from admits_append

theorem addActor_eq_ok_iff {index : Nat} {actor : Actor} :
    seen.addActor index actor = .ok last ↔
      ((0 < index → actor.kind = .sprite) ∧ seen.Admits [actor]) ∧ seen.after [actor] = last := by
  have hkind : (0 < index → actor.kind = .sprite) ↔ ¬ (0 < index ∧ actor.kind = .stage) := by
    cases actor.kind <;> simp
  rw [admits_singleton, hkind, ← Name.fault?_eq_none_iff]
  unfold addActor
  by_cases hstage : 0 < index ∧ actor.kind = .stage
  · simp [hstage]
  by_cases hid : actor.id ∈ seen.actors
  · simp [hstage, hid]
  cases hname : Name.fault? seen.names actor.name with
  | some fault => simp [hstage, hid]
  | none =>
      simp only [hstage, hid, if_false, addHandlers_eq_ok_iff, not_false_eq_true, true_and, after,
        List.flatMap_cons, List.flatMap_nil, List.append_nil]
      exact Iff.rfl

/-- **The loop's invariant**: it comes to its end if the actors follow the rules after what has
    been met. -/
theorem addActors_isOk_iff {actors : List Actor} {index : Nat} (hindex : 0 < index) :
    (∃ last, seen.addActors index actors = .ok last) ↔
      seen.Admits actors ∧ ∀ actor ∈ actors, actor.kind = .sprite := by
  induction actors generalizing seen index with
  | nil =>
      refine iff_of_true ⟨seen, rfl⟩ ⟨⟨by simp, by simp, by simp, ?_, ?_⟩, ?_⟩ <;>
        exact fun _ h => absurd h List.not_mem_nil
  | cons actor actors ih =>
      rw [addActors, admits_cons, List.forall_mem_cons]
      cases h : seen.addActor index actor with
      | error defect =>
          simp only [reduceCtorEq, exists_false, false_iff]
          intro h
          obtain ⟨⟨hone, -⟩, hkind, -⟩ := h
          rw [addActor_eq_ok_iff.mpr ⟨⟨fun _ => hkind, hone⟩, rfl⟩] at h
          cases h
      | ok next =>
          obtain ⟨⟨hkind, hone⟩, rfl⟩ := addActor_eq_ok_iff.mp h
          simp only [ih (Nat.succ_pos index), hone, hkind hindex, true_and]

end Seen

/-! ## 4. The check -/

namespace Program

variable {program : Program}

theorem wellFormed_iff_admits : program.WellFormed ↔
    Seen.nothing.Admits program.actors ∧ program.actors.head?.map Actor.kind = some .stage ∧
      ∀ actor ∈ program.actors.tail, actor.kind = .sprite := by
  constructor
  · intro h
    exact ⟨⟨nil_allNew.mpr h.actors_distinct, nil_allNew.mpr h.handlers_distinct,
      nil_allNew.mpr h.names_distinct, h.names_allowed, h.lines_unbroken⟩, h.stage_first,
      h.sprites_after⟩
  · intro h
    obtain ⟨⟨ha, hh, hn, hal, hl⟩, hfirst, hafter⟩ := h
    exact ⟨hfirst, hafter, ha.1, hh.1, hal, hn.1, hl⟩

theorem defect?_eq_none_iff : program.defect? = none ↔ program.WellFormed := by
  rw [wellFormed_iff_admits]
  unfold defect?
  cases hactors : program.actors with
  | nil => simp
  | cons first others =>
      rw [Seen.admits_cons]
      by_cases hstage : first.kind = .stage
      · simp only [hstage, if_true, List.head?_cons, Option.map_some, List.tail_cons, true_and,
          Seen.addActors]
        cases h : Seen.nothing.addActor 0 first with
        | error defect =>
            simp only [reduceCtorEq, false_iff]
            intro h
            obtain ⟨⟨hone, -⟩, -⟩ := h
            rw [Seen.addActor_eq_ok_iff.mpr
              ⟨⟨fun h0 => absurd h0 (Nat.lt_irrefl 0), hone⟩, rfl⟩] at h
            cases h
        | ok next =>
            obtain ⟨⟨-, hone⟩, rfl⟩ := Seen.addActor_eq_ok_iff.mp h
            simp only [hone, true_and, ← Seen.addActors_isOk_iff (Nat.succ_pos 0)]
            cases (Seen.nothing.after [first]).addActors (0 + 1) others <;> simp
      · simp [hstage]

/-- **The check accepts exactly the well-formed trees.** -/
theorem validate_eq_ok_iff : program.validate = .ok () ↔ program.WellFormed := by
  rw [← defect?_eq_none_iff]
  unfold validate
  cases program.defect? <;> simp

/-- A cat on the stage. Each of the two has a handler without lines in front, and the cat one more
    at the end. -/
def catOnStage : Program :=
  ⟨[⟨⟨1⟩, .stage, "Stage", [⟨⟨1⟩, .greenFlag, []⟩, ⟨⟨2⟩, .clicked, ["let a = 1;", ""]⟩]⟩,
    ⟨⟨2⟩, .sprite, "Cat", [⟨⟨3⟩, .startAsClone, []⟩, ⟨⟨4⟩, .greenFlag, ["print(a);"]⟩,
      ⟨⟨5⟩, .clicked, []⟩]⟩]⟩

theorem validate_catOnStage : catOnStage.validate = .ok () := rfl

end Program

end Stagecraft
