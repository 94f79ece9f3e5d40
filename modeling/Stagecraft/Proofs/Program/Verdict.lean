import Stagecraft.Proofs.Program.FirstDefect

/-!
# The verdict on a tree

`Program.FirstDefect` says which defect of a tree is the first, without a loop and without anything
to remember: the tree cut off before the defect is in order, and what stands there breaks a rule but
none of those that are looked at before. It has one rule for each kind of defect.

* `Program.FirstDefect.append`: what follows a tree does not change its first defect;
* `Program.firstDefect_of_addActor`, `Program.FirstDefect.validate_eq`: where the loop stops the
  first defect is, and the loop stops at the first defect;
* `Program.validate_eq_error_iff`: **the check reports the first defect, and nothing else**;
* `Program.check_names_first_defect` is about all trees, accepted or refused.
-/

namespace Stagecraft

/-! ## 1. Names -/

/-- Only which names are taken matters for a name, not their order. -/
theorem Name.fault?_congr {taken taken' : List String} (h : ∀ other, other ∈ taken ↔ other ∈ taken')
    (name : String) : fault? taken name = fault? taken' name := by
  cases hfault : fault? taken name with
  | some fault => exact (fault?_mono hfault fun other hother => (h other).mp hother).symm
  | none =>
      obtain ⟨hallowed, hfree⟩ := fault?_eq_none_iff.mp hfault
      have hfree' : name ∉ taken' := fun hmem => hfree ((h name).mpr hmem)
      exact (fault?_eq_none_iff.mpr ⟨hallowed, hfree'⟩).symm

/-! ## 2. First defects -/

namespace Program

/-- The actors before are in order, and the actor is of the kind that comes next. -/
def Expects (before : List Actor) (actor : Actor) : Prop :=
  before = [] ∧ actor.kind = .stage ∨ WellFormed ⟨before⟩ ∧ actor.kind = .sprite

/-- **The first defect of a tree.** -/
inductive FirstDefect : Program → Defect → Prop where
  | noActors : FirstDefect ⟨[]⟩ .noActors
  | stageNotFirst {actor : Actor} {after : List Actor} (h : actor.kind ≠ .stage) :
      FirstDefect ⟨actor :: after⟩ .stageNotFirst
  | secondStage {before after : List Actor} {actor : Actor} (hbefore : WellFormed ⟨before⟩)
      (h : actor.kind = .stage) :
      FirstDefect ⟨before ++ actor :: after⟩ (.secondStage before.length)
  | repeatedActor {before after : List Actor} {actor : Actor} (hbefore : WellFormed ⟨before⟩)
      (hkind : actor.kind = .sprite) (h : actor.id ∈ before.map Actor.id) :
      FirstDefect ⟨before ++ actor :: after⟩ (.repeatedActor actor.id)
  | badName {before after : List Actor} {actor : Actor} {fault : NameFault}
      (hbefore : Expects before actor) (hid : actor.id ∉ before.map Actor.id)
      (h : Name.fault? (before.map Actor.name) actor.name = some fault) :
      FirstDefect ⟨before ++ actor :: after⟩ (.badName actor.name fault)
  | repeatedHandler {before after : List Actor} {actor : Actor} {front back : List Handler}
      {handler : Handler} (hhandlers : actor.handlers = front ++ handler :: back)
      (hbefore : WellFormed ⟨before ++ [{ actor with handlers := front }]⟩)
      (h : handler.id ∈ handlerIds ⟨before ++ [{ actor with handlers := front }]⟩) :
      FirstDefect ⟨before ++ actor :: after⟩ (.repeatedHandler handler.id)
  | brokenLine {before after : List Actor} {actor : Actor} {front back : List Handler}
      {handler : Handler} {lines more : List String} {line : String}
      (hhandlers : actor.handlers = front ++ handler :: back)
      (hbefore : WellFormed ⟨before ++ [{ actor with handlers := front }]⟩)
      (hid : handler.id ∉ handlerIds ⟨before ++ [{ actor with handlers := front }]⟩)
      (hbody : handler.body = lines ++ line :: more)
      (hlines : ∀ good ∈ lines, Text.hasBreak good = false) (h : Text.hasBreak line = true) :
      FirstDefect ⟨before ++ actor :: after⟩ (.brokenLine handler.id lines.length)

variable {program : Program} {before behind actors : List Actor} {actor : Actor}
  {front back : List Handler} {handler : Handler} {defect : Defect}

/-- **What follows a tree does not change its first defect**, unless there was no tree. -/
theorem FirstDefect.append (h : FirstDefect ⟨actors⟩ defect) (hne : actors ≠ [])
    (more : List Actor) : FirstDefect ⟨actors ++ more⟩ defect := by
  generalize htree : (⟨actors⟩ : Program) = tree at h
  cases h <;> obtain rfl := congrArg Program.actors htree
  case noActors => exact absurd rfl hne
  case stageNotFirst h => exact .stageNotFirst h
  all_goals rw [List.append_assoc, List.cons_append]
  case secondStage hbefore h => exact .secondStage hbefore h
  case repeatedActor hbefore hkind h => exact .repeatedActor hbefore hkind h
  case badName hbefore hid h => exact .badName hbefore hid h
  case repeatedHandler hhandlers hbefore h => exact .repeatedHandler hhandlers hbefore h
  case brokenLine hhandlers hbefore hid hbody hlines h =>
    exact .brokenLine hhandlers hbefore hid hbody hlines h

end Program

/-! ## 3. Where the loops stop -/

namespace Seen

variable {seen next : Seen} {index : Nat} {actors : List Actor} {actor : Actor}
  {front back : List Handler} {handlers : List Handler} {handler : Handler} {defect : Defect}

theorem admits_nil : seen.Admits [] :=
  ⟨allNew_nil, allNew_nil, allNew_nil, fun _ ha => absurd ha List.not_mem_nil,
    fun _ ha => absurd ha List.not_mem_nil⟩

/-- The loop over handlers stops at a handler behind those that it has passed over. -/
theorem exists_of_addHandlers_eq_error (h : seen.addHandlers handlers = .error defect) :
    ∃ front handler back next, handlers = front ++ handler :: back ∧
      seen.addHandlers front = .ok next ∧ next.addHandler handler = .error defect := by
  induction handlers generalizing seen with
  | nil => cases h
  | cons first rest ih =>
      rw [addHandlers] at h
      cases hone : seen.addHandler first with
      | error other =>
          rw [hone] at h
          cases h
          exact ⟨[], first, rest, seen, rfl, rfl, hone⟩
      | ok met =>
          rw [hone] at h
          obtain ⟨front, handler, back, next, rfl, hfront, hhandler⟩ := ih h
          refine ⟨first :: front, handler, back, next, rfl, ?_, hhandler⟩
          rw [addHandlers, hone]
          exact hfront

/-- So does the loop over actors. -/
theorem exists_of_addActors_eq_error (h : seen.addActors index actors = .error defect) :
    ∃ before actor after, actors = before ++ actor :: after ∧
      (seen.Admits before ∧ KindsFrom index before) ∧
      (seen.after before).addActor (index + before.length) actor = .error defect := by
  induction actors generalizing seen index with
  | nil => cases h
  | cons first rest ih =>
      rw [addActors] at h
      cases hone : seen.addActor index first with
      | error other =>
          rw [hone] at h
          cases h
          exact ⟨[], first, rest, rfl, ⟨admits_nil, trivial⟩, hone⟩
      | ok met =>
          rw [hone] at h
          obtain ⟨⟨hkind, hfirst⟩, rfl⟩ := addActor_eq_ok_iff.mp hone
          obtain ⟨before, actor, behind, rfl, ⟨hbefore, hkinds⟩, hactor⟩ := ih h
          refine ⟨first :: before, actor, behind, rfl,
            ⟨admits_cons.mpr ⟨hfirst, hbefore⟩, hkind, hkinds⟩, ?_⟩
          have hafter : (seen.after [first]).after before = seen.after (first :: before) := by
            simp [after]
          rw [← hafter, List.length_cons, Nat.add_comm before.length, ← Nat.add_assoc]
          exact hactor

/-- Where kind, id and name are in order, only the handlers are left to look at. -/
theorem addActor_eq_addHandlers (hkind : 0 < index → actor.kind = .sprite)
    (hid : actor.id ∉ seen.actors) (hname : Name.fault? seen.names actor.name = none)
    (handlers : List Handler) : seen.addActor index { actor with handlers := handlers } =
      addHandlers ⟨actor.id :: seen.actors, seen.handlers, actor.name :: seen.names⟩ handlers := by
  refine (addActor_eq_of_new ?_ ?_).trans ?_
  · exact hkind
  · exact hid
  · dsimp only
    rw [hname]

/-- Where nothing is wrong with an actor as far as some of its handlers, the next one is looked
    at. -/
theorem addActor_eq_of_front (hhandlers : actor.handlers = front ++ handler :: back)
    (hfront : seen.addActor index { actor with handlers := front } = .ok next) :
    seen.addActor index actor = addHandlers next (handler :: back) := by
  obtain ⟨⟨hkind, hadmits⟩, -⟩ := addActor_eq_ok_iff.mp hfront
  obtain ⟨hid, hname, -, -⟩ := admits_singleton.mp hadmits
  have hfree : Name.fault? seen.names actor.name = none := Name.fault?_eq_none_iff.mpr hname
  rw [addActor_eq_addHandlers hkind hid hfree] at hfront
  have hwhole := addActor_eq_addHandlers hkind hid hfree actor.handlers
  rw [hhandlers, addHandlers_append_of_ok hfront, ← hhandlers] at hwhole
  exact hwhole

end Seen

/-! ## 4. The two belong together -/

namespace Program

variable {program : Program} {before behind actors : List Actor} {actor : Actor}
  {front back : List Handler} {handler : Handler} {defect : Defect}

/-- Where the stage stands is told by the first actor and the kinds of the others. -/
theorem stageFirst_of_kindsFrom (hstage : actors.head?.map Actor.kind = some .stage)
    (hkinds : Seen.KindsFrom 0 actors) : StageFirst actors := by
  cases actors with
  | nil => cases hstage
  | cons stage sprites =>
      have hall : ∀ {index : Nat} {others : List Actor}, 0 < index → Seen.KindsFrom index others →
          ∀ actor ∈ others, actor.kind = .sprite := by
        intro index others
        induction others generalizing index with
        | nil => exact fun _ _ _ ha => absurd ha List.not_mem_nil
        | cons other others ih =>
            intro hpos hothers
            exact List.forall_mem_cons.mpr ⟨hothers.1 hpos, ih (Nat.succ_pos index) hothers.2⟩
      exact ⟨stage, sprites, rfl, Option.some.inj hstage, hall (Nat.succ_pos 0) hkinds.2⟩

/-- What the loop has passed over is in order. -/
theorem wellFormed_iff_kindsFrom : WellFormed ⟨actors⟩ ↔
    actors.head?.map Actor.kind = some .stage ∧ Seen.nothing.Admits actors ∧
      Seen.KindsFrom 0 actors := by
  rw [wellFormed_iff]
  constructor
  · intro h
    exact ⟨(stageFirst_iff.mp h.2).1, h.1, h.2.kindsFrom⟩
  · intro h
    exact ⟨h.2.1, stageFirst_of_kindsFrom h.1 h.2.2⟩

/-- An actor that is expected comes after a tree in order, or is the first. -/
theorem expects_iff : Expects before actor ↔
    (before ++ [actor]).head?.map Actor.kind = some .stage ∧ Seen.nothing.Admits before ∧
      Seen.KindsFrom 0 (before ++ [actor]) := by
  unfold Expects
  rw [wellFormed_iff_kindsFrom, Seen.kindsFrom_append]
  cases before with
  | nil => simp [Seen.KindsFrom, Seen.admits_nil]
  | cons stage sprites => simp [Seen.KindsFrom, and_assoc]

/-- Nothing is wrong with a tree if nothing is wrong up to its last actor, nor with that one. -/
theorem wellFormed_concat_iff : WellFormed ⟨before ++ [actor]⟩ ↔
    (before ++ [actor]).head?.map Actor.kind = some .stage ∧
      (Seen.nothing.Admits before ∧ Seen.KindsFrom 0 before) ∧
      (Seen.nothing.after before).addActor before.length actor =
        .ok (Seen.nothing.after (before ++ [actor])) := by
  have hafter : (Seen.nothing.after before).after [actor] =
      Seen.nothing.after (before ++ [actor]) := by
    simp [Seen.after]
  rw [wellFormed_iff_kindsFrom, Seen.admits_append, Seen.kindsFrom_append, Seen.addActor_eq_ok_iff]
  simp only [hafter, Seen.KindsFrom, Nat.zero_add]
  tauto

theorem mem_handlers_after_iff {id : HandlerId} :
    id ∈ (Seen.nothing.after actors).handlers ↔ id ∈ handlerIds ⟨actors⟩ :=
  Seen.mem_handlers_after.trans mem_handlerIds.symm

/-- What the loop has met of names is what the actors before have. -/
theorem fault?_names_after (name : String) :
    Name.fault? (Seen.nothing.after before).names name =
      Name.fault? (before.map Actor.name) name :=
  Name.fault?_congr (fun _ => Seen.mem_names_after.trans List.mem_map.symm) name

/-- A handler at which the loop stops has the first defect, if up to it nothing is wrong. -/
theorem firstDefect_of_addHandler (hhandlers : actor.handlers = front ++ handler :: back)
    (hbefore : WellFormed ⟨before ++ [{ actor with handlers := front }]⟩)
    (h : (Seen.nothing.after (before ++ [{ actor with handlers := front }])).addHandler handler =
      .error defect) : FirstDefect ⟨before ++ actor :: behind⟩ defect := by
  unfold Seen.addHandler at h
  split at h
  next hid =>
    cases h
    exact .repeatedHandler hhandlers hbefore (mem_handlers_after_iff.mp hid)
  next hid =>
    rw [mem_handlers_after_iff] at hid
    split at h
    next line hline =>
      cases h
      obtain ⟨hlt, hbroken, hgood⟩ := List.findIdx?_eq_some_iff_getElem.mp hline
      have hbody : handler.body =
          handler.body.take line ++ handler.body[line] :: handler.body.drop (line + 1) := by
        rw [← List.drop_eq_getElem_cons hlt, List.take_append_drop]
      have hunbroken : ∀ good ∈ handler.body.take line, Text.hasBreak good = false := by
        intro good hmem
        obtain ⟨index, hindex, rfl⟩ := List.mem_take_iff_getElem.mp hmem
        simpa using hgood index (by omega)
      have hdefect : FirstDefect ⟨before ++ actor :: behind⟩
          (.brokenLine handler.id (handler.body.take line).length) :=
        .brokenLine hhandlers hbefore hid hbody hunbroken hbroken
      rwa [List.length_take_of_le (Nat.le_of_lt hlt)] at hdefect
    next => cases h

/-- **Where the loop stops is the first defect.** -/
theorem firstDefect_of_addActor (hstage : (before ++ [actor]).head?.map Actor.kind = some .stage)
    (hbefore : Seen.nothing.Admits before) (hkinds : Seen.KindsFrom 0 before)
    (h : (Seen.nothing.after before).addActor before.length actor = .error defect) :
    FirstDefect ⟨before ++ actor :: behind⟩ defect := by
  have hwell : 0 < before.length → WellFormed ⟨before⟩ := by
    intro hpos
    refine wellFormed_iff_kindsFrom.mpr ⟨?_, hbefore, hkinds⟩
    rwa [List.head?_append_of_ne_nil _ (List.ne_nil_of_length_pos hpos)] at hstage
  by_cases hsecond : 0 < before.length ∧ actor.kind = .stage
  · unfold Seen.addActor at h
    rw [if_pos hsecond] at h
    cases h
    exact .secondStage (hwell hsecond.1) hsecond.2
  have hkind : 0 < before.length → actor.kind = .sprite := by
    intro hpos
    cases hactor : actor.kind with
    | stage => exact absurd ⟨hpos, hactor⟩ hsecond
    | sprite => rfl
  by_cases hid : actor.id ∈ (Seen.nothing.after before).actors
  · unfold Seen.addActor at h
    rw [if_neg hsecond, if_pos hid] at h
    cases h
    obtain ⟨other, hother, heq⟩ := Seen.mem_actors_after.mp hid
    have hpos : 0 < before.length := List.length_pos_of_mem hother
    exact .repeatedActor (hwell hpos) (hkind hpos) (heq ▸ List.mem_map_of_mem hother)
  rw [Seen.addActor_eq_of_new hkind hid] at h
  cases hname : Name.fault? (Seen.nothing.after before).names actor.name with
  | some fault =>
      rw [hname] at h
      cases h
      have hexpects : Expects before actor := by
        refine expects_iff.mpr ⟨hstage, hbefore, Seen.kindsFrom_append.mpr ⟨hkinds, ?_, trivial⟩⟩
        simpa using hkind
      have hnew : actor.id ∉ before.map Actor.id :=
        fun hmem => hid (Seen.mem_actors_after.mpr (List.mem_map.mp hmem))
      exact .badName hexpects hnew (fault?_names_after actor.name ▸ hname)
  | none =>
      rw [hname] at h
      obtain ⟨front, handler, back, next, hhandlers, hfront, hhandler⟩ :=
        Seen.exists_of_addHandlers_eq_error h
      -- the actor passes with the handlers in front of that one
      have hpasses := (Seen.addActor_eq_addHandlers hkind hid hname front).trans hfront
      obtain ⟨-, rfl⟩ := Seen.addActor_eq_ok_iff.mp hpasses
      have hafter : (Seen.nothing.after before).after [{ actor with handlers := front }] =
          Seen.nothing.after (before ++ [{ actor with handlers := front }]) := by
        simp [Seen.after]
      rw [hafter] at hpasses hhandler
      refine firstDefect_of_addHandler hhandlers (wellFormed_concat_iff.mpr ⟨?_, ⟨hbefore, hkinds⟩,
        hpasses⟩) hhandler
      cases before <;> exact hstage

/-- The loop stops at a handler that has a defect, if up to it nothing is wrong. -/
theorem validate_of_addHandler (hhandlers : actor.handlers = front ++ handler :: back)
    (hbefore : WellFormed ⟨before ++ [{ actor with handlers := front }]⟩)
    (h : (Seen.nothing.after (before ++ [{ actor with handlers := front }])).addHandler handler =
      .error defect) : validate ⟨before ++ actor :: behind⟩ = .error defect := by
  obtain ⟨hstage, ⟨hadmits, hkinds⟩, hfront⟩ := wellFormed_concat_iff.mp hbefore
  refine validate_eq_error_of_prefix ?_ hadmits hkinds ?_
  · cases before <;> exact hstage
  · rw [Seen.addActor_eq_of_front hhandlers hfront, Seen.addHandlers, h]

/-- **The check stops at the first defect.** -/
theorem FirstDefect.validate_eq (h : program.FirstDefect defect) :
    program.validate = .error defect := by
  cases h with
  | noActors => rfl
  | stageNotFirst hkind =>
      unfold validate defect?
      dsimp only
      rw [if_neg hkind]
  | @secondStage before after actor hbefore hkind =>
      obtain ⟨hstage, hadmits, hkinds⟩ := wellFormed_iff_kindsFrom.mp hbefore
      have hpos : 0 < before.length := by
        cases before with
        | nil => cases hstage
        | cons => exact Nat.succ_pos _
      refine validate_eq_error_of_prefix ?_ hadmits hkinds ?_
      · rwa [List.head?_append_of_ne_nil _ (List.ne_nil_of_length_pos hpos)]
      · unfold Seen.addActor
        rw [if_pos ⟨hpos, hkind⟩]
  | @repeatedActor before after actor hbefore hkind hid =>
      obtain ⟨hstage, hadmits, hkinds⟩ := expects_iff.mp (.inr ⟨hbefore, hkind⟩)
      refine validate_eq_error_of_prefix ?_ hadmits (Seen.kindsFrom_append.mp hkinds).1 ?_
      · cases before <;> exact hstage
      · have hmet := Seen.mem_actors_after.mpr (List.mem_map.mp hid)
        unfold Seen.addActor
        rw [if_neg (by simp [hkind]), if_pos hmet]
  | @badName before after actor fault hbefore hid hname =>
      obtain ⟨hstage, hadmits, hkinds⟩ := expects_iff.mp hbefore
      obtain ⟨hbeforeKinds, hkind⟩ := Seen.kindsFrom_append.mp hkinds
      refine validate_eq_error_of_prefix ?_ hadmits hbeforeKinds ?_
      · cases before <;> exact hstage
      · rw [Nat.zero_add] at hkind
        have hnew : actor.id ∉ (Seen.nothing.after before).actors :=
          fun hmem => hid (List.mem_map.mpr (Seen.mem_actors_after.mp hmem))
        rw [Seen.addActor_eq_of_new hkind.1 hnew, fault?_names_after, hname]
  | repeatedHandler hhandlers hbefore hid =>
      refine validate_of_addHandler hhandlers hbefore ?_
      unfold Seen.addHandler
      rw [if_pos (mem_handlers_after_iff.mpr hid)]
  | @brokenLine before after actor front back handler lines more line hhandlers hbefore hid hbody
      hlines hbroken =>
      refine validate_of_addHandler hhandlers hbefore ?_
      have hline : Seen.brokenLine? handler.body = some lines.length := by
        rw [Seen.brokenLine?, hbody, List.findIdx?_append, List.findIdx?_eq_none_iff.mpr hlines,
          List.findIdx?_cons, hbroken]
        simp
      unfold Seen.addHandler
      rw [if_neg (mem_handlers_after_iff.not.mpr hid), hline]

/-- **Every tree that is refused has a first defect**, the one that is reported. -/
theorem firstDefect_of_validate (h : program.validate = .error defect) :
    program.FirstDefect defect := by
  obtain ⟨actors⟩ := program
  unfold validate defect? at h
  cases actors with
  | nil =>
      cases h
      exact .noActors
  | cons stage sprites =>
      dsimp only at h
      by_cases hkind : stage.kind = .stage
      · rw [if_pos hkind] at h
        cases hloop : Seen.nothing.addActors 0 (stage :: sprites) with
        | ok seen =>
            rw [hloop] at h
            cases h
        | error other =>
            rw [hloop] at h
            cases h
            obtain ⟨before, actor, behind, hactors, ⟨hbefore, hkinds⟩, hactor⟩ :=
              Seen.exists_of_addActors_eq_error hloop
            rw [Nat.zero_add] at hactor
            rw [hactors]
            refine firstDefect_of_addActor ?_ hbefore hkinds hactor
            have hstage : (before ++ actor :: behind).head?.map Actor.kind = some .stage :=
              hactors ▸ congrArg some hkind
            cases before <;> exact hstage
      · rw [if_neg hkind] at h
        cases h
        exact .stageNotFirst hkind

/-- **The check reports the first defect, and nothing else.** -/
theorem validate_eq_error_iff : program.validate = .error defect ↔ program.FirstDefect defect :=
  ⟨firstDefect_of_validate, FirstDefect.validate_eq⟩

/-- A tree has no two first defects. -/
theorem FirstDefect.unique {other : Defect} (h : program.FirstDefect defect)
    (hother : program.FirstDefect other) : other = defect :=
  Except.error.inj (hother.validate_eq.symm.trans h.validate_eq)

/-- **The check decides the rules and names the first defect**, whatever the actors are. It accepts
    exactly the well-formed trees. What it reports of any other tree is the first defect. A tree
    whose first few actors are refused on their own is refused for the same reason. -/
theorem check_names_first_defect :
    (∀ program : Program, program.validate = .ok () ↔ program.WellFormed) ∧
    (∀ (program : Program) (defect : Defect),
      program.validate = .error defect ↔ program.FirstDefect defect) ∧
    (∀ (program : Program) (count : Nat) (defect : Defect), 0 < count →
      validate ⟨program.actors.take count⟩ = .error defect → program.validate = .error defect) := by
  refine ⟨fun _ => validate_eq_ok_iff, fun _ _ => validate_eq_error_iff, ?_⟩
  intro program count defect hcount h
  by_cases hempty : program.actors.take count = []
  · -- then there is no actor at all
    have hactors : program.actors = [] := by
      rcases List.take_eq_nil_iff.mp hempty with hzero | hnil
      · omega
      · exact hnil
    rwa [hactors, List.take_nil, ← hactors] at h
  · have hfirst := (validate_eq_error_iff.mp h).append hempty (program.actors.drop count)
    rw [List.take_append_drop] at hfirst
    exact hfirst.validate_eq

/-- A second stage behind the cat on the stage, and behind that a sprite with a bad name and an id
    that the cat has: of the three defects, the second stage is the first. -/
theorem second_stage_is_first :
    let tree : Program :=
      ⟨catOnStage.actors ++ [⟨⟨3⟩, .stage, "Night", []⟩, ⟨⟨2⟩, .sprite, "2nd cat", []⟩]⟩
    0 < 3 ∧ validate ⟨tree.actors.take 3⟩ = .error (.secondStage 2) ∧
      tree.validate = .error (.secondStage 2) ∧ tree.FirstDefect (.secondStage 2) := by
  intro tree
  obtain ⟨-, hfirst, hprefix⟩ := check_names_first_defect
  have hthree : validate ⟨tree.actors.take 3⟩ = .error (.secondStage 2) := rfl
  have hwhole := hprefix tree 3 (.secondStage 2) (by decide) hthree
  exact ⟨by decide, hthree, hwhole, (hfirst tree (.secondStage 2)).mp hwhole⟩

end Program

end Stagecraft
