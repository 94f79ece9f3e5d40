import Stagecraft.Proofs.Session.Snapshot

/-!
# The focus never dangles

The actor in focus is one of the program's after whatever calls, as long as the focus is only set to
actors that are there.

* `Step.MovesFocus` lists why a call moves the focus, and where to;
* `Step.moves_or_stays`: without such a reason focus and actor stay;
* `Step.MovesFocus.focus_there`: with one, the focus moves to an actor that is there;
* `Session.focus_never_dangles` follows the two through all calls.

No id has to be new for that. The actor that a run locates is there since a session never runs a
flattening that is out of date.
-/

namespace Stagecraft

/-- The actor in focus is one of the program's. -/
def Session.FocusThere (session : Session) : Prop :=
  session.focus ∈ session.program.actors.map Actor.id

/-! ## 1. Reasons -/

/-- A call deletes the actor in focus, in one way or the other, and is answered with `previous`. -/
structure Step.DeletesFocused (step : Step) (previous : ActorId) : Prop where
  called : step.call = .edit (.deleteActor step.session.focus) ∨
    step.call = .deleteFocused step.session.focus
  answered : step.answer = .replied (.ok (.actor previous))

/-- Why a call moves the focus, and where to. -/
inductive Step.MovesFocus (step : Step) : ActorId → Prop where
  /-- The focus is set. -/
  | sets (actor : ActorId) (hcall : step.call = .setFocus actor) : MovesFocus step actor
  /-- The actor in focus is deleted. -/
  | deletes (previous : ActorId) (h : step.DeletesFocused previous) : MovesFocus step previous
  /-- A run is led back to a place. -/
  | locates (report : RunReport) (place : Located) (name message : String)
      (hanswer : step.answer = .report report)
      (hplace : report.attribution = some (.located place name message)) :
      MovesFocus step place.actor

namespace Session

variable {session : Session} {edit : Edit}

theorem focusAfter_deleteActor (session : Session) (previous : ActorId) :
    session.focusAfter (.deleteActor session.focus) (.actor previous) = previous :=
  if_pos rfl

theorem focusAfter_of_ne (h : edit ≠ .deleteActor session.focus) (reply : Reply) :
    session.focusAfter edit reply = session.focus := by
  unfold focusAfter
  split
  next actor previous => exact if_neg fun hactor => h (congrArg Edit.deleteActor hactor.symm)
  next => rfl

theorem program_run (session : Session) (host : Host) (supply : Supply) :
    (session.run host supply).2.1.program = session.program :=
  program_flattened

theorem focus_run (session : Session) (host : Host) (supply : Supply) :
    (session.run host supply).2.1.focus =
      session.focusAfterRun (session.run host supply).1.attribution :=
  focusAfterRun_flattened _

end Session

namespace Step

variable {step : Step} {actor previous : ActorId}

/-! ## 2. Calls without a reason -/

/-- The focus stays, and the actor in focus does not go. -/
structure StaysFocused (step : Step) : Prop where
  same : step.next.focus = step.session.focus
  there : step.session.FocusThere → step.next.FocusThere

theorem staysFocused_of_eq (hfocus : step.next.focus = step.session.focus)
    (hprogram : step.next.program = step.session.program) : step.StaysFocused where
  same := hfocus
  there h := by
    unfold Session.FocusThere
    rw [hfocus, hprogram]
    exact h

/-- A call that does what an edit does. -/
theorem moves_or_stays_of_edit {edit : Edit}
    (hperform : step.session.perform step.call step.supply =
      step.session.perform (.edit edit) step.supply)
    (hcall : edit = .deleteActor step.session.focus →
      step.call = .edit (.deleteActor step.session.focus) ∨
        step.call = .deleteFocused step.session.focus) :
    (∃ actor, step.MovesFocus actor) ∨ step.StaysFocused := by
  cases happly : edit.apply step.supply.fresh step.session.program with
  | error fault =>
      rw [Session.perform_edit_of_error happly] at hperform
      exact Or.inr (staysFocused_of_eq (by rw [next, hperform]) (by rw [next, hperform]))
  | ok result =>
      obtain ⟨changed, reply⟩ := result
      rw [Session.perform_edit_of_ok happly] at hperform
      by_cases hdelete : edit = .deleteActor step.session.focus
      · subst hdelete
        rw [Edit.apply_eq_result] at happly
        obtain ⟨⟨_, previous⟩, -, heq⟩ := Except.map_eq_ok_iff.mp happly
        cases heq
        exact Or.inl ⟨previous, .deletes previous ⟨hcall rfl, by rw [answer, hperform]⟩⟩
      · have hfocus : step.next.focus = step.session.focus := by
          rw [next, hperform]
          exact Session.focusAfter_of_ne hdelete reply
        refine Or.inr ⟨hfocus, fun hthere => ?_⟩
        unfold Session.FocusThere
        rw [hfocus, next, hperform]
        exact (Program.mem_ids_of_apply happly hthere).resolve_right hdelete

/-- **A call has a reason to move the focus, or focus and actor stay.** -/
theorem moves_or_stays (step : Step) : (∃ actor, step.MovesFocus actor) ∨ step.StaysFocused := by
  obtain ⟨session, supply, call⟩ := step
  cases call with
  | edit edit => exact moves_or_stays_of_edit rfl fun hdelete => Or.inl (hdelete ▸ rfl)
  | deleteFocused claimed =>
      by_cases hfocus : claimed = session.focus
      · exact moves_or_stays_of_edit (Session.perform_deleteFocused_of_eq hfocus)
          fun _ => Or.inr (hfocus ▸ rfl)
      · have hperform := Session.perform_deleteFocused_of_ne supply hfocus
        exact Or.inr (staysFocused_of_eq (by rw [next, hperform]) (by rw [next, hperform]))
  | setFocus actor => exact Or.inl ⟨actor, .sets actor rfl⟩
  | flattened => exact Or.inr (staysFocused_of_eq Session.focus_flattened Session.program_flattened)
  | run host =>
      have hstays : session.focusAfterRun (session.run host supply).1.attribution = session.focus →
          StaysFocused ⟨session, supply, .run host⟩ := fun hsame =>
        staysFocused_of_eq ((session.focus_run host supply).trans hsame)
          (session.program_run host supply)
      cases hplace : (session.run host supply).1.attribution with
      | none => exact Or.inr (hstays (by rw [hplace]; rfl))
      | some attribution =>
          cases attribution with
          | unattributable message => exact Or.inr (hstays (by rw [hplace]; rfl))
          | located place name message =>
              exact Or.inl ⟨place.actor, .locates _ place name message rfl hplace⟩

/-! ## 3. Where the focus moves -/

/-- **The actor in focus is deleted**, and the focus moves to the actor that the answer names. -/
theorem DeletesFocused.deleteActor (h : step.DeletesFocused previous) :
    step.session.program.deleteActor step.session.focus = .ok (step.next.program, previous) ∧
      step.next.focus = previous := by
  have hperform : step.session.perform step.call step.supply =
      step.session.perform (.edit (.deleteActor step.session.focus)) step.supply := by
    rcases h.called with hcall | hcall
    · rw [hcall]
    · rw [hcall, Session.perform_deleteFocused_of_eq rfl]
  have hanswer := h.answered
  cases happly : (Edit.deleteActor step.session.focus).apply step.supply.fresh
      step.session.program with
  | error fault =>
      rw [Session.perform_edit_of_error happly] at hperform
      rw [answer, hperform] at hanswer
      cases hanswer
  | ok result =>
      obtain ⟨changed, reply⟩ := result
      rw [Session.perform_edit_of_ok happly] at hperform
      rw [answer, hperform] at hanswer
      cases hanswer
      rw [Edit.apply_eq_result] at happly
      obtain ⟨⟨_, _⟩, hdeleted, heq⟩ := Except.map_eq_ok_iff.mp happly
      cases heq
      refine ⟨?_, ?_⟩
      · rw [next, hperform]
        exact hdeleted
      · rw [next, hperform]
        exact Session.focusAfter_deleteActor step.session _

/-- The actor that the focus moves to stood directly before the deleted one. -/
theorem DeletesFocused.exists_split (h : step.DeletesFocused previous) :
    ∃ front actor deleted back,
      step.session.program.actors = front ++ actor :: deleted :: back ∧
      actor.id = previous ∧ deleted.id = step.session.focus ∧
      step.next.program.actors = front ++ actor :: back := by
  obtain ⟨front, actor, deleted, back, hactors, hprevious, hdeleted, hnext⟩ :=
    Program.exists_split_of_deleteActor h.deleteActor.1
  exact ⟨front, actor, deleted, back, hactors, hprevious, hdeleted, by rw [hnext]⟩

/-- A call that is answered with a report has run the program. -/
theorem exists_run_of_answer {report : RunReport} (h : step.answer = .report report) :
    ∃ host, step.session.run host step.supply = (report, step.next, step.rest) := by
  obtain ⟨session, supply, call⟩ := step
  cases call with
  | edit edit => cases h
  | deleteFocused claimed =>
      simp only [answer, Session.perform] at h
      split at h <;> cases h
  | setFocus actor => cases h
  | flattened => cases h
  | run host =>
      have hreport : (session.run host supply).1 = report := Answer.report.inj h
      exact ⟨host, hreport ▸ rfl⟩

/-- **The focus moves where the reason says.** -/
theorem MovesFocus.focus_next (h : step.MovesFocus actor) : step.next.focus = actor := by
  cases h with
  | sets _ hcall => rw [next, hcall]; rfl
  | deletes _ hdeletes => exact hdeletes.deleteActor.2
  | locates report place name message hanswer hplace =>
      obtain ⟨host, hrun⟩ := exists_run_of_answer hanswer
      have hfocus := step.session.focus_run host step.supply
      rw [hrun, hplace] at hfocus
      exact hfocus

/-- **And there is an actor there.** -/
theorem MovesFocus.focus_there (h : step.MovesFocus actor)
    (hcoherent : step.session.Coherent step.supply)
    (hset : ∀ actor, step.call = .setFocus actor →
      actor ∈ step.session.program.actors.map Actor.id) : step.next.FocusThere := by
  unfold Session.FocusThere
  rw [h.focus_next]
  cases h with
  | sets _ hcall =>
      rw [next, hcall]
      exact hset actor hcall
  | deletes _ hdeletes =>
      obtain ⟨front, actor, deleted, back, -, rfl, -, hnext⟩ := hdeletes.exists_split
      rw [hnext]
      exact List.mem_map_of_mem (List.mem_append_right front List.mem_cons_self)
  | locates report place name message hanswer hplace =>
      -- what ran was the flattening of the program that is still there
      obtain ⟨host, hrun⟩ := exists_run_of_answer hanswer
      obtain ⟨-, -, hattribution, hprogram, -⟩ := hcoherent.run_eq hrun
      rw [hprogram]
      exact (Program.owns_of_located (hattribution.symm.trans hplace)).mem_ids

end Step

/-! ## 4. All calls -/

namespace Session

variable {session : Session} {supply : Supply} {calls : List Call}

theorem Opened.focusThere (h : session.Opened) : session.FocusThere := by
  unfold FocusThere
  rw [h.focus_eq]
  exact h.wellFormed.stageId_mem

/-- **Every call leaves the focus on an actor that is there.** -/
theorem FocusThere.next {step : Step} (h : step.session.FocusThere)
    (hcoherent : step.session.Coherent step.supply)
    (hset : ∀ actor, step.call = .setFocus actor →
      actor ∈ step.session.program.actors.map Actor.id) : step.next.FocusThere := by
  rcases step.moves_or_stays with ⟨actor, hmoves⟩ | hstays
  · exact hmoves.focus_there hcoherent hset
  · exact hstays.there h

/-- **The focus never dangles, and moves only for a reason.** Let the focus only be set to actors
    that are there. Then at first and after every call, whatever it is and however it ends, the
    actor in focus is one of the program's. A call that moves the focus sets it, or deletes the
    actor in focus, or has run and is led back to a place; the focus is then where that says. Where
    the actor in focus is deleted, the focus is on the one that stood directly before it, which
    stays. The two ways to delete the actor in focus are one. -/
theorem focus_never_dangles (hopen : session.Opened)
    (hset : ∀ step ∈ session.steps supply calls, ∀ actor, step.call = .setFocus actor →
      actor ∈ step.session.program.actors.map Actor.id) :
    session.FocusThere ∧
    (∀ step ∈ session.steps supply calls,
      step.next.FocusThere ∧
      (step.next.focus ≠ step.session.focus → ∃ actor, step.MovesFocus actor) ∧
      (∀ actor, step.MovesFocus actor → step.next.focus = actor) ∧
      ∀ previous, step.DeletesFocused previous → ∃ front actor deleted back,
        step.session.program.actors = front ++ actor :: deleted :: back ∧
        actor.id = previous ∧ deleted.id = step.session.focus ∧
        step.next.program.actors = front ++ actor :: back) ∧
    ∀ (now : Session) (stock : Supply), now.perform (.deleteFocused now.focus) stock =
      now.perform (.edit (.deleteActor now.focus)) stock := by
  obtain ⟨-, hsteps⟩ := invariant_after (fun now stock => now.Coherent stock ∧ now.FocusThere)
    (fun step => ∀ actor, step.call = .setFocus actor →
      actor ∈ step.session.program.actors.map Actor.id)
    (fun step hset h => ⟨h.1.next, h.2.next h.1 hset⟩) ⟨hopen.coherent, hopen.focusThere⟩ hset
  refine ⟨hopen.focusThere, fun step hstep => ?_, fun now stock => perform_deleteFocused_of_eq rfl⟩
  obtain ⟨hcoherent, hthere⟩ := hsteps step hstep
  refine ⟨hthere.next hcoherent (hset step hstep), fun hne => ?_, fun actor h => h.focus_next,
    fun previous h => h.exists_split⟩
  exact step.moves_or_stays.resolve_right fun hstays => hne hstays.same

/-- A run leads the focus to the cat. A dog is put before the cat, and a claim that the stage is in
    focus is refused. Then the cat is deleted, and the focus is on the dog until it is set. -/
theorem focus_from_cat_to_dog :
    let start := ofProgram Program.catOnStage
    let supply : Supply := ⟨fun drawn => 10 + drawn, 0, 0⟩
    let host : Host := fun _ => .failed (some 3) "a is unknown" []
    let calls : List Call := [.run host, .edit (.insertActor 0 "Dog"), .deleteFocused ⟨1⟩,
      .deleteFocused ⟨2⟩, .setFocus ⟨1⟩]
    (∀ step ∈ start.steps supply calls, step.next.FocusThere) ∧
      (start.steps supply calls).map (fun step => step.next.focus) =
        [⟨2⟩, ⟨2⟩, ⟨2⟩, ⟨10⟩, ⟨1⟩] := by
  intro start supply host calls
  have hopen : start.Opened := .ofProgram Program.validate_catOnStage
  have hset : ∀ step ∈ start.steps supply calls, ∀ actor, step.call = .setFocus actor →
      actor ∈ step.session.program.actors.map Actor.id := by
    refine List.forall_mem_cons.mpr ⟨fun _ hcall => Call.noConfusion hcall, ?_⟩
    refine List.forall_mem_cons.mpr ⟨fun _ hcall => Call.noConfusion hcall, ?_⟩
    refine List.forall_mem_cons.mpr ⟨fun _ hcall => Call.noConfusion hcall, ?_⟩
    refine List.forall_mem_cons.mpr ⟨fun _ hcall => Call.noConfusion hcall, ?_⟩
    refine List.forall_mem_cons.mpr ⟨fun actor hcall => ?_, List.forall_mem_nil _⟩
    cases hcall
    decide +kernel
  refine ⟨fun step hstep => ?_, by decide +kernel⟩
  obtain ⟨-, hsteps, -⟩ := focus_never_dangles hopen hset
  exact (hsteps step hstep).1

end Session

end Stagecraft
