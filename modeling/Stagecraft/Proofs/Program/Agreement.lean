import Stagecraft.Proofs.Program.FirstDefect
import Stagecraft.Session

/-!
# Edits judge as the check does

An edit looks at its argument before it touches the tree: at a name beside all other names at once,
at the lines of a body. The check goes through a tree as it is and reports the first defect. Here a
sprite, a name or a body is written into a well-formed program without any look at it, and the check
is asked.

* `Program.placeSprite`, `Program.writeName`, `Program.writeBody`: what is written, unchecked;
* `Program.validate_eq_badName`: **a bad name is reported as such**, and for the same reason, even
  where the actor with which it clashes stands behind it and is the one that is reported;
* `Program.validate_eq_brokenLine`: so is a broken line;
* `Program.edits_judge_as_check` is about all three edits.
-/

namespace Stagecraft

namespace Program

/-! ## 1. Trees that nobody has checked -/

/-- A sprite without handlers, behind the actor at an index, under any name. -/
def placeSprite (program : Program) (after : Nat) (name : String) (fresh : ActorId) : Program :=
  ⟨program.actors.insertIdx (after + 1) ⟨fresh, .sprite, name, []⟩⟩

/-- Any name in the place of an actor's name. -/
def writeName (program : Program) (actor : ActorId) (name : String) : Program :=
  program.updateActor actor fun a => { a with name := name }

/-- Any lines in the place of a handler's body. -/
def writeBody (program : Program) (actor : ActorId) (handler : HandlerId) (lines : List String) :
    Program :=
  program.updateHandler actor handler fun h => { h with body := lines }

/-- An edit and the check judge alike: the edit makes the tree as it is written if the check accepts
    that tree, and is refused if the check refuses it, for reasons that belong together. -/
structure JudgedAlike (edited : Except EditFault Program) (written : Program)
    (SameReason : EditFault → Defect → Prop) : Prop where
  accepted : edited = .ok written ↔ written.validate = .ok ()
  made : ∀ changed, edited = .ok changed → changed = written
  refused : ∀ fault, edited = .error fault →
    ∃ defect, written.validate = .error defect ∧ SameReason fault defect

/-- Both refuse the name, for the same reason. -/
def BothRefuseName (name : String) (fault : EditFault) (defect : Defect) : Prop :=
  ∃ reason : NameFault, fault = .badName name reason ∧ defect = .badName name reason ∧
    defect.reason = s!"actor name \"{name}\" is invalid: {reason.message}"

/-- Both refuse the same line. -/
def BothRefuseLine (handler : HandlerId) (fault : EditFault) (defect : Defect) : Prop :=
  ∃ line : Nat, fault = .brokenLine line ∧ defect = .brokenLine handler line ∧
    defect.reason = s!"handler {handler.text} body line {line} contains a line break"

variable {program written : Program} {edited : Except EditFault Program}
  {SameReason : EditFault → Defect → Prop}

theorem judgedAlike_of_ok (hedited : edited = .ok written) (hwell : written.WellFormed) :
    JudgedAlike edited written SameReason where
  accepted := iff_of_true hedited (validate_eq_ok_iff.mpr hwell)
  made _ hok := Except.ok.inj (hok.symm.trans hedited)
  refused _ herror := nomatch herror.symm.trans hedited

theorem judgedAlike_of_error {fault : EditFault} {defect : Defect} (hedited : edited = .error fault)
    (hcheck : written.validate = .error defect) (hsame : SameReason fault defect) :
    JudgedAlike edited written SameReason where
  accepted := by
    rw [hedited, hcheck]
    exact iff_of_false nofun nofun
  made _ hok := nomatch hok.symm.trans hedited
  refused _ herror :=
    ⟨defect, hcheck, Except.error.inj (hedited.symm.trans herror) ▸ hsame⟩

/-! ## 2. Names -/

/-- Nothing is wrong with an actor beside others, whatever its name. -/
structure FitsBeside (actor : Actor) (others : List Actor) : Prop where
  id_new : actor.id ∉ (Seen.nothing.after others).actors
  handlers_new : AllNew (Seen.nothing.after others).handlers (actor.handlers.map Handler.id)
  lines_unbroken : ∀ handler ∈ actor.handlers, ∀ line ∈ handler.body, Text.hasBreak line = false

variable {before after front back others : List Actor} {actor clash : Actor} {name : String}

theorem FitsBeside.subset (h : FitsBeside actor others) (hsub : before ⊆ others) :
    FitsBeside actor before where
  id_new hmem := by
    obtain ⟨other, hother, heq⟩ := Seen.mem_actors_after.mp hmem
    exact h.id_new (Seen.mem_actors_after.mpr ⟨other, hsub hother, heq⟩)
  handlers_new := h.handlers_new.mono fun id hmem => by
    obtain ⟨other, hother, found⟩ := Seen.mem_handlers_after.mp hmem
    exact Seen.mem_handlers_after.mpr ⟨other, hsub hother, found⟩
  lines_unbroken := h.lines_unbroken

/-- With a name that is allowed and free, the actor follows all rules. -/
theorem FitsBeside.admits (h : FitsBeside actor others) (hallowed : Name.Allowed actor.name)
    (hfree : actor.name ∉ (Seen.nothing.after others).names) :
    (Seen.nothing.after others).Admits [actor] :=
  Seen.admits_singleton.mpr ⟨h.id_new, ⟨hallowed, hfree⟩, h.handlers_new, h.lines_unbroken⟩

theorem mem_names_after_iff : name ∈ (Seen.nothing.after others).names ↔
    name ∈ others.map Actor.name :=
  Seen.mem_names_after.trans List.mem_map.symm

/-- The first of the actors that have a name. -/
theorem exists_first_named (hmem : name ∈ others.map Actor.name) :
    ∃ front clash back, others = front ++ clash :: back ∧ clash.name = name ∧
      name ∉ front.map Actor.name := by
  obtain ⟨names, more, heq, hfirst⟩ := List.eq_append_cons_of_mem hmem
  obtain ⟨front, rest, rfl, rfl, hrest⟩ := List.map_eq_append_iff.mp heq
  obtain ⟨clash, back, rfl, hclash, -⟩ := List.map_eq_cons_iff.mp hrest
  exact ⟨front, clash, back, rfl, hclash, hfirst⟩

theorem StageFirst.insert (h : StageFirst (before ++ after)) (hne : before ≠ [])
    (hkind : actor.kind = .sprite) : StageFirst (before ++ actor :: after) := by
  obtain ⟨stage, sprites, heq, hstage, hsprites⟩ := h
  cases before with
  | nil => exact absurd rfl hne
  | cons first front =>
      obtain ⟨rfl, rfl⟩ := List.cons.inj heq
      refine ⟨first, front ++ actor :: after, rfl, hstage, fun other hother => ?_⟩
      rcases List.mem_cons.mp (List.perm_middle.subset hother) with rfl | hother
      · exact hkind
      · exact hsprites other hother

theorem StageFirst.sprite_behind (h : StageFirst (before ++ actor :: after)) :
    0 < before.length → actor.kind = .sprite := by
  obtain ⟨-, hkind, -⟩ := Seen.kindsFrom_append.mp h.kindsFrom
  rwa [Nat.zero_add] at hkind

/-- A name that is bad beside the names before it is reported where it stands. -/
theorem validate_eq_badName_of_before {fault : NameFault}
    (hstage : StageFirst (before ++ actor :: after)) (hbefore : Seen.nothing.Admits before)
    (hfits : FitsBeside actor before)
    (hname : Name.fault? (Seen.nothing.after before).names actor.name = some fault) :
    validate ⟨before ++ actor :: after⟩ = .error (.badName actor.name fault) := by
  refine validate_eq_error hstage hbefore ?_
  rw [Seen.addActor_eq_of_new hstage.sprite_behind hfits.id_new, hname]

/-- A name that an actor behind has is reported where that actor stands. -/
theorem validate_eq_badName_of_behind
    (hstage : StageFirst (before ++ actor :: (front ++ clash :: back)))
    (hothers : Seen.nothing.Admits (before ++ (front ++ clash :: back)))
    (hfits : FitsBeside actor (before ++ (front ++ clash :: back)))
    (hallowed : Name.Allowed actor.name) (hfree : actor.name ∉ (before ++ front).map Actor.name)
    (hclash : clash.name = actor.name) :
    validate ⟨before ++ actor :: (front ++ clash :: back)⟩ =
      .error (.badName actor.name (.taken actor.name)) := by
  have hsplit : before ++ actor :: (front ++ clash :: back) =
      (before ++ actor :: front) ++ clash :: back := by
    rw [List.append_assoc, List.cons_append]
  rw [← List.append_assoc] at hothers hfits
  -- up to the clash, nothing is wrong
  have hgood : Seen.nothing.Admits (before ++ actor :: front) := by
    refine Seen.admits_middle.mpr ⟨(Seen.admits_append.mp hothers).1, ?_⟩
    refine (hfits.subset (List.subset_append_left _ _)).admits hallowed fun hmem => ?_
    exact hfree (mem_names_after_iff.mp hmem)
  have hnew : clash.id ∉ (Seen.nothing.after (before ++ actor :: front)).actors := by
    intro hmem
    obtain ⟨other, hother, heq⟩ := Seen.mem_actors_after.mp hmem
    rcases List.mem_cons.mp (List.perm_middle.subset hother) with rfl | hother
    · refine hfits.id_new (Seen.mem_actors_after.mpr ⟨clash, ?_, heq.symm⟩)
      exact List.mem_append_right _ List.mem_cons_self
    · exact key_ne_of_split hothers.actors_new.1 other (List.mem_append_left _ hother) heq
  have htaken : Name.fault? (Seen.nothing.after (before ++ actor :: front)).names clash.name =
      some (.taken clash.name) := by
    refine Name.fault?_eq_taken (hclash ▸ hallowed) (Seen.mem_names_after.mpr ⟨actor, ?_, ?_⟩)
    · exact List.mem_append_right _ List.mem_cons_self
    · exact hclash.symm
  rw [hsplit] at hstage ⊢
  refine validate_eq_error hstage hgood ?_
  rw [Seen.addActor_eq_of_new hstage.sprite_behind hnew, htaken, hclash]

/-- **A bad name is reported.** Let an actor stand among others that follow the rules, and let
    nothing be wrong with it except for its name beside all of theirs. -/
theorem validate_eq_badName {fault : NameFault} (hstage : StageFirst (before ++ actor :: after))
    (hothers : Seen.nothing.Admits (before ++ after)) (hfits : FitsBeside actor (before ++ after))
    (hname : Name.fault? ((before ++ after).map Actor.name) actor.name = some fault) :
    validate ⟨before ++ actor :: after⟩ = .error (.badName actor.name fault) := by
  have hnames : (Seen.nothing.after before).names ⊆ (before ++ after).map Actor.name := by
    intro name hmem
    rw [List.map_append]
    exact List.mem_append_left _ (mem_names_after_iff.mp hmem)
  cases hfirst : Name.fault? (Seen.nothing.after before).names actor.name with
  | some first =>
      have hsame : Name.fault? ((before ++ after).map Actor.name) actor.name = some first :=
        Name.fault?_mono hfirst hnames
      obtain rfl : first = fault := Option.some.inj (hsame.symm.trans hname)
      exact validate_eq_badName_of_before hstage (Seen.admits_append.mp hothers).1
        (hfits.subset (List.subset_append_left _ _)) hfirst
  | none =>
      -- what makes the name bad is then that an actor behind has it
      obtain ⟨hallowed, hfree⟩ := Name.fault?_eq_none_iff.mp hfirst
      rw [mem_names_after_iff] at hfree
      have htaken : actor.name ∈ after.map Actor.name := by
        by_contra hno
        have hnone : Name.fault? ((before ++ after).map Actor.name) actor.name = none := by
          rw [List.map_append]
          exact Name.fault?_eq_none_iff.mpr ⟨hallowed, List.not_mem_append hfree hno⟩
        rw [hnone] at hname
        cases hname
      have hfault : Name.fault? ((before ++ after).map Actor.name) actor.name =
          some (.taken actor.name) := by
        rw [List.map_append]
        exact Name.fault?_eq_taken hallowed (List.mem_append_right _ htaken)
      obtain rfl : NameFault.taken actor.name = fault :=
        Option.some.inj (hfault.symm.trans hname)
      obtain ⟨front, clash, back, rfl, hclash, hfront⟩ := exists_first_named htaken
      refine validate_eq_badName_of_behind hstage hothers hfits hallowed ?_ hclash
      rw [List.map_append]
      exact List.not_mem_append hfree hfront

/-! ## 3. Lines -/

/-- **A broken line is reported**, if it is written into the body of a handler. -/
theorem WellFormed.validate_eq_brokenLine (h : program.WellFormed)
    (hactors : program.actors = before ++ actor :: after) {front back : List Handler}
    {handler : Handler} (hhandlers : actor.handlers = front ++ handler :: back)
    {lines : List String} {line : Nat} (hbroken : lines.findIdx? Text.hasBreak = some line) :
    validate ⟨before ++
        { actor with handlers := front ++ { handler with body := lines } :: back } :: after⟩ =
      .error (.brokenLine handler.id line) := by
  obtain ⟨hadmits, hstage⟩ := wellFormed_iff.mp h
  rw [hactors] at hadmits hstage
  obtain ⟨hbefore, hrest⟩ := Seen.admits_append.mp hadmits
  obtain ⟨hid, hname, hnew, hlines⟩ := Seen.admits_singleton.mp (Seen.admits_cons.mp hrest).1
  have hkinds : ∀ changed : Actor, changed.kind = actor.kind →
      (before ++ changed :: after).map Actor.kind = (before ++ actor :: after).map Actor.kind := by
    intro changed hkind
    rw [List.map_append, List.map_append, List.map_cons, List.map_cons, hkind]
  refine validate_eq_error (hstage.of_kinds (hkinds _ rfl)) hbefore ?_
  refine (Seen.addActor_eq_of_new ?_ ?_).trans ?_
  · exact hstage.sprite_behind
  · exact hid
  dsimp only
  rw [Name.fault?_eq_none_iff.mpr hname]
  rw [hhandlers] at hnew hlines
  refine Seen.addHandlers_eq_brokenLine ?_ (fun other hother => ?_) hbroken
  · rw [List.map_append, List.map_cons] at hnew ⊢
    exact hnew
  · exact hlines other (List.mem_append_left _ hother)

/-! ## 4. All three edits -/

/-- **What the check says of a new sprite** is what there is to say of its name. -/
theorem WellFormed.validate_placeSprite (h : program.WellFormed) {index : Nat} {fresh : ActorId}
    (hlt : index < program.actors.length) (hfresh : fresh ∉ program.actors.map Actor.id)
    (name : String) :
    (program.placeSprite index name fresh).validate =
      match Name.fault? program.names name with
      | none => .ok ()
      | some fault => .error (.badName name fault) := by
  cases hname : Name.fault? program.names name with
  | none =>
      have hok : program.insertActor index name fresh =
          .ok (program.placeSprite index name fresh) := insertActor_eq_ok_iff.mpr ⟨hlt, hname, rfl⟩
      exact validate_eq_ok_iff.mpr (h.insertActor hfresh hok)
  | some fault =>
      obtain ⟨hadmits, hstage⟩ := wellFormed_iff.mp h
      obtain ⟨before, after, hactors, hlength, hput⟩ :=
        exists_eq_append_of_insertIdx ⟨fresh, .sprite, name, []⟩ (Nat.succ_le_of_lt hlt)
      unfold names at hname
      rw [hactors] at hadmits hstage hfresh hname
      have hne : before ≠ [] := List.ne_nil_of_length_eq_add_one hlength
      unfold placeSprite
      rw [hput]
      refine validate_eq_badName (hstage.insert hne rfl) hadmits ⟨?_, allNew_nil, ?_⟩ hname
      · exact fun hmem => hfresh (List.mem_map.mpr (Seen.mem_actors_after.mp hmem))
      · exact fun _ hmem => absurd hmem List.not_mem_nil

theorem WellFormed.placeSprite_judgedAlike (h : program.WellFormed) {index : Nat} {fresh : ActorId}
    (hlt : index < program.actors.length) (hfresh : fresh ∉ program.actors.map Actor.id)
    (name : String) :
    JudgedAlike (program.insertActor index name fresh) (program.placeSprite index name fresh)
      (BothRefuseName name) := by
  have hcheck := h.validate_placeSprite hlt hfresh name
  cases hname : Name.fault? program.names name with
  | none =>
      rw [hname] at hcheck
      exact judgedAlike_of_ok (insertActor_eq_ok_iff.mpr ⟨hlt, hname, rfl⟩)
        (validate_eq_ok_iff.mp hcheck)
  | some fault =>
      rw [hname] at hcheck
      exact judgedAlike_of_error (insertActor_eq_badName hlt hname) hcheck ⟨fault, rfl, rfl, rfl⟩

/-- The names of all other actors. -/
theorem names_of_others (hnodup : ((before ++ actor :: after).map Actor.id).Nodup) :
    ((before ++ actor :: after).filter (·.id ≠ actor.id)).map Actor.name =
      (before ++ after).map Actor.name := by
  have hne := key_ne_of_split hnodup
  have hkeep : ∀ part : List Actor, part ⊆ before ++ after →
      part.filter (·.id ≠ actor.id) = part := by
    intro part hpart
    exact List.filter_eq_self.mpr fun other hother => by simpa using hne other (hpart hother)
  rw [List.filter_append, List.filter_cons_of_neg (by simp),
    hkeep before (List.subset_append_left _ _), hkeep after (List.subset_append_right _ _)]

theorem WellFormed.writeName_judgedAlike (h : program.WellFormed) (ha : actor ∈ program.actors)
    (name : String) :
    JudgedAlike (program.renameActor actor.id name) (program.writeName actor.id name)
      (BothRefuseName name) := by
  have hfound := h.actor?_eq_some ha
  cases hname : Name.fault? ((program.actors.filter (·.id ≠ actor.id)).map Actor.name) name with
  | none =>
      have hok : program.renameActor actor.id name = .ok (program.writeName actor.id name) :=
        renameActor_eq_ok_iff.mpr ⟨⟨actor, hfound⟩, hname, rfl⟩
      exact judgedAlike_of_ok hok (h.renameActor hok)
  | some fault =>
      have hcheck : (program.writeName actor.id name).validate = .error (.badName name fault) := by
        obtain ⟨before, after, hactors, -⟩ := exists_eq_append_of_actor? hfound
        obtain ⟨hadmits, hstage⟩ := wellFormed_iff.mp h
        obtain ⟨hid, -, hhandlers, hlines⟩ := Seen.admits_singleton.mp (h.admits_actor hactors)
        unfold writeName
        rw [h.updateActor_eq hactors]
        have hnodup := h.actors_distinct
        rw [hactors] at hadmits hstage hname hnodup
        rw [names_of_others hnodup] at hname
        refine validate_eq_badName (hstage.of_kinds ?_) (Seen.admits_middle.mp hadmits).1
          ⟨hid, hhandlers, hlines⟩ hname
        rw [List.map_append, List.map_append]
        rfl
      exact judgedAlike_of_error (renameActor_eq_badName hfound hname) hcheck ⟨fault, rfl, rfl, rfl⟩

theorem WellFormed.writeBody_judgedAlike (h : program.WellFormed) (ha : actor ∈ program.actors)
    {handler : Handler} (hh : handler ∈ actor.handlers) (lines : List String) :
    JudgedAlike (program.setBody actor.id handler.id lines)
      (program.writeBody actor.id handler.id lines) (BothRefuseLine handler.id) := by
  have hfound := h.actor?_eq_some ha
  have hfoundHandler : actor.handler? handler.id = some handler :=
    find?_key_eq_some (h.nodup_handlers ha) hh
  have hthere : program.missing? actor.id handler.id = none :=
    missing?_eq_none_iff.mpr ⟨actor, hfound, handler, hfoundHandler⟩
  cases hbroken : lines.findIdx? Text.hasBreak with
  | none =>
      have hok : program.setBody actor.id handler.id lines =
          .ok (program.writeBody actor.id handler.id lines) :=
        setBody_eq_ok_iff.mpr ⟨hthere, List.findIdx?_eq_none_iff.mp hbroken, rfl⟩
      exact judgedAlike_of_ok hok (h.setBody hok)
  | some line =>
      have hcheck : (program.writeBody actor.id handler.id lines).validate =
          .error (.brokenLine handler.id line) := by
        obtain ⟨before, after, hactors, -⟩ := exists_eq_append_of_actor? hfound
        obtain ⟨front, back, hhandlers, -⟩ := exists_eq_append_of_find? hfoundHandler
        unfold writeBody
        rw [h.updateHandler_eq hactors hhandlers]
        exact h.validate_eq_brokenLine hactors hhandlers hbroken
      exact judgedAlike_of_error (setBody_eq_brokenLine hthere hbroken) hcheck ⟨line, rfl, rfl, rfl⟩

/-- The own name of an actor is not refused. -/
theorem WellFormed.fault?_own_name (h : program.WellFormed) (ha : actor ∈ program.actors) :
    Name.fault? ((program.actors.filter (·.id ≠ actor.id)).map Actor.name) actor.name = none := by
  refine Name.fault?_eq_none_iff.mpr ⟨h.names_allowed actor ha, fun hmem => ?_⟩
  obtain ⟨other, hother, hname⟩ := List.mem_map.mp hmem
  obtain ⟨hthere, hne⟩ := List.mem_filter.mp hother
  obtain rfl : other = actor := List.inj_on_of_nodup_map h.names_distinct hthere ha hname
  exact absurd rfl (of_decide_eq_true hne)

/-- To keep the own name is no change, and accepted. -/
theorem WellFormed.renameActor_self (h : program.WellFormed) (ha : actor ∈ program.actors) :
    program.renameActor actor.id actor.name = .ok program := by
  refine renameActor_eq_ok_iff.mpr ⟨⟨actor, h.actor?_eq_some ha⟩, h.fault?_own_name ha, ?_⟩
  refine (updateActor_eq_self fun other hother hid => ?_).symm
  rw [h.eq_of_id_eq ha hother hid]

/-- **Edits judge as the check does**, about any program that passed the check. A new sprite, a new
    name for an actor and a new body for a handler are accepted by the edit exactly if the check
    accepts the tree in which they are written unchecked, and else both give the same reason. What a
    session says of a name for a new actor is what the check says of it. An actor may keep its own
    name. -/
theorem edits_judge_as_check (hvalid : program.validate = .ok ()) :
    (∀ (index : Nat) (name : String) (fresh : ActorId), index < program.actors.length →
      fresh ∉ program.actors.map Actor.id →
        let written := program.placeSprite index name fresh
        JudgedAlike (program.insertActor index name fresh) written (BothRefuseName name) ∧
        ∀ session : Session, session.program = program →
          (session.nameFault? name = none ↔ written.validate = .ok ()) ∧
          ∀ reason, session.nameFault? name = some reason ↔
            written.validate = .error (.badName name reason)) ∧
    (∀ actor ∈ program.actors,
      (∀ name : String,
        JudgedAlike (program.renameActor actor.id name) (program.writeName actor.id name)
          (BothRefuseName name)) ∧
      program.renameActor actor.id actor.name = .ok program) ∧
    (∀ actor ∈ program.actors, ∀ handler ∈ actor.handlers, ∀ lines : List String,
      JudgedAlike (program.setBody actor.id handler.id lines)
        (program.writeBody actor.id handler.id lines) (BothRefuseLine handler.id)) := by
  have h : program.WellFormed := validate_eq_ok_iff.mp hvalid
  refine ⟨fun index name fresh hlt hfresh => ?_, fun actor ha => ?_, fun actor ha handler hh => ?_⟩
  · have hjudged := h.placeSprite_judgedAlike hlt hfresh name
    refine ⟨hjudged, fun session hsession => ?_⟩
    rw [Session.nameFault?, hsession, h.validate_placeSprite hlt hfresh name]
    cases Name.fault? program.names name <;> simp
  · exact ⟨h.writeName_judgedAlike ha, h.renameActor_self ha⟩
  · exact h.writeBody_judgedAlike ha hh

/-- A second cat behind the stage: the sprite that was there before is the one that the check finds
    at fault, and the name and the reason are the same as for the edit. -/
theorem judged_second_cat : catOnStage.validate = .ok () ∧
    catOnStage.insertActor 0 "Cat" ⟨3⟩ = .error (.badName "Cat" (.taken "Cat")) ∧
    ∃ defect, (catOnStage.placeSprite 0 "Cat" ⟨3⟩).validate = .error defect ∧
      BothRefuseName "Cat" (.badName "Cat" (.taken "Cat")) defect := by
  have hrefused : catOnStage.insertActor 0 "Cat" ⟨3⟩ = .error (.badName "Cat" (.taken "Cat")) := rfl
  have hjudged := (edits_judge_as_check validate_catOnStage).1 0 "Cat" ⟨3⟩ (by decide) (by decide)
  exact ⟨validate_catOnStage, hrefused, hjudged.1.refused _ hrefused⟩

end Program

end Stagecraft
