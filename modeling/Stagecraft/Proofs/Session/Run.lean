import Stagecraft.Proofs.Program.Preservation
import Stagecraft.Session

/-!
# Runs of sessions

A session is opened on a program and then asked one thing after the other. `Session.after` is what
the calls lead to, and `Session.steps` lists each call with the state in which it was made.

* `Session.invariant_after`: what one step keeps, all steps keep;
* `Step.does`: a call edits, flattens, or leaves program and flattening as they are. To delete the
  actor in focus is one of the edits;
* `Session.reaches_after`: the program of a session is one that edits lead to, and so a well-formed
  one.
-/

namespace Stagecraft

/-! ## 1. Steps -/

/-- A session as it is at first: on a new program, or on one that passed the check. -/
inductive Session.Opened : Session → Prop where
  | new {stageName : Option String} {fresh : ActorId} {session : Session}
      (h : Session.new stageName fresh = .ok session) : Opened session
  | ofProgram {program : Program} (h : program.validate = .ok ()) : Opened (.ofProgram program)

/-- A call with the state in which it is made. -/
structure Step where
  session : Session
  supply : Supply
  call : Call

namespace Step

/-- What is answered. -/
def answer (step : Step) : Answer :=
  (step.session.perform step.call step.supply).1

/-- The session after the call. -/
def next (step : Step) : Session :=
  (step.session.perform step.call step.supply).2.1

/-- The supply after the call. -/
def rest (step : Step) : Supply :=
  (step.session.perform step.call step.supply).2.2

/-- An id that the call uses up is new. -/
def DrawsFresh (step : Step) : Prop :=
  ∀ edit, step.call = .edit edit → edit.DrawsFresh step.supply.fresh step.session.program

end Step

namespace Session

/-- Calls one after the other, each with the state in which it is made. -/
def steps : Session → Supply → List Call → List Step
  | _, _, [] => []
  | session, supply, call :: calls =>
    let step : Step := ⟨session, supply, call⟩
    step :: step.next.steps step.rest calls

/-- The session and its supply after calls. -/
def after : Session → Supply → List Call → Session × Supply
  | session, supply, [] => (session, supply)
  | session, supply, call :: calls =>
    let step : Step := ⟨session, supply, call⟩
    step.next.after step.rest calls

variable {session : Session} {supply : Supply} {calls : List Call}

/-- **What one step keeps, all steps keep.** -/
theorem invariant_after (kept : Session → Supply → Prop) (allowed : Step → Prop)
    (hstep : ∀ step : Step, allowed step → kept step.session step.supply →
      kept step.next step.rest)
    (hstart : kept session supply) (hallowed : ∀ step ∈ session.steps supply calls, allowed step) :
    kept (session.after supply calls).1 (session.after supply calls).2 ∧
      ∀ step ∈ session.steps supply calls, kept step.session step.supply := by
  induction calls generalizing session supply with
  | nil => exact ⟨hstart, fun _ hmem => absurd hmem List.not_mem_nil⟩
  | cons call calls ih =>
      obtain ⟨hone, hmore⟩ := List.forall_mem_cons.mp hallowed
      obtain ⟨hend, hsteps⟩ := ih (hstep ⟨session, supply, call⟩ hone hstart) hmore
      exact ⟨hend, List.forall_mem_cons.mpr ⟨hstart, hsteps⟩⟩

/-- After a step, the calls that are left go on from where it led. -/
theorem exists_calls_after_step {before later : List Step} {step : Step}
    (h : session.steps supply calls = before ++ step :: later) :
    ∃ more, later = step.next.steps step.rest more ∧
      session.after supply calls = step.next.after step.rest more := by
  induction calls generalizing session supply before with
  | nil => cases (List.append_eq_nil_iff.mp h.symm).2
  | cons call calls ih =>
      cases before with
      | nil =>
          obtain ⟨rfl, rfl⟩ := List.cons.inj h
          exact ⟨calls, rfl, rfl⟩
      | cons first before =>
          obtain ⟨more, hlater, hafter⟩ := ih (List.cons.inj h).2
          exact ⟨more, hlater, hafter⟩

/-! ## 2. What a call does -/

theorem edit_of_run {α : Type} {work : Editing α} {outcome : Except EditFault α} {left : Bench}
    (h : work.run ⟨session.program, supply⟩ = (outcome, left)) :
    session.edit work supply = (outcome, { session with
      program := left.program, cached := if outcome.isOk then none else session.cached },
      left.supply) := by
  unfold Session.edit
  rw [h]
  cases outcome <;> rfl

theorem perform_edit_of_error {edit : Edit} {fault : EditFault}
    (h : edit.apply supply.fresh session.program = .error fault) :
    session.perform (.edit edit) supply = (.replied (.error fault), session, supply) := by
  unfold perform carryOut
  dsimp only
  rw [edit_of_run (Edit.run_carryOut_of_error h)]
  rfl

theorem perform_edit_of_ok {edit : Edit} {program : Program} {reply : Reply}
    (h : edit.apply supply.fresh session.program = .ok (program, reply)) :
    session.perform (.edit edit) supply = (.replied (.ok reply),
      ⟨program, session.focusAfter edit reply, none⟩,
      if edit.draws then supply.next else supply) := by
  unfold perform carryOut
  dsimp only
  rw [edit_of_run (Edit.run_carryOut_of_ok h)]
  cases edit <;> cases reply <;> rfl

/-- **To delete the actor in focus is to delete that actor.** -/
theorem perform_deleteFocused_of_eq {claimed : ActorId} (h : claimed = session.focus) :
    session.perform (.deleteFocused claimed) supply =
      session.perform (.edit (.deleteActor claimed)) supply := by
  unfold perform carryOut deleteFocused Edit.carryOut
  dsimp only
  rw [if_pos h, edit_of_run (Editing.run_map _ _ _)]
  cases (Editing.deleteActor claimed).run ⟨session.program, supply⟩ with
  | mk outcome left =>
      cases outcome with
      | error fault => rfl
      | ok before =>
          have hfocus : session.focusAfter (.deleteActor claimed) (.actor before) = before :=
            if_pos h.symm
          exact (congrArg (fun focus => (Answer.replied (.ok (.actor before)),
            (⟨left.program, focus, none⟩ : Session), left.supply)) hfocus).symm

theorem perform_deleteFocused_of_ne (supply : Supply) {claimed : ActorId}
    (h : claimed ≠ session.focus) :
    session.perform (.deleteFocused claimed) supply =
      (.focusMismatch claimed session.focus, session, supply) := by
  simp only [perform, deleteFocused, if_neg h]

theorem flattened_of_cached {snapshot : Snapshot} (h : session.cached = some snapshot) :
    session.flattened supply = (snapshot, session, supply) := by
  simp only [flattened, h]

theorem flattened_of_not_cached (h : session.cached = none) :
    session.flattened supply = (⟨supply.issued, session.program.flatten⟩,
      { session with cached := some ⟨supply.issued, session.program.flatten⟩ },
      { supply with issued := supply.issued + 1 }) := by
  simp only [flattened, h]

end Session

/-! ## 3. All that a call can do -/

/-- What a call does to the program, the flattening and the serial numbers. -/
inductive Step.Does (step : Step) : Prop where
  /-- It leaves them as they are. -/
  | keeps (hprogram : step.next.program = step.session.program)
      (hcached : step.next.cached = step.session.cached)
      (hissued : step.rest.issued = step.supply.issued)
  /-- It carries out an edit and drops the flattening. -/
  | edits (edit : Edit) (reply : Reply)
      (hcall : step.call = .edit edit ∨ ∃ claimed, edit = .deleteActor claimed)
      (happly : edit.apply step.supply.fresh step.session.program = .ok (step.next.program, reply))
      (hcached : step.next.cached = none) (hissued : step.rest.issued = step.supply.issued)
  /-- It makes the flattening, which was not known. -/
  | flattens (hnone : step.session.cached = none)
      (hprogram : step.next.program = step.session.program)
      (hcached : step.next.cached = some ⟨step.supply.issued, step.session.program.flatten⟩)
      (hissued : step.rest.issued = step.supply.issued + 1)

namespace Step

variable {step : Step}

/-- A call that does what an edit does. -/
theorem does_of_edit {edit : Edit}
    (hcall : step.call = .edit edit ∨ ∃ claimed, edit = .deleteActor claimed)
    (hperform : step.session.perform step.call step.supply =
      step.session.perform (.edit edit) step.supply) : step.Does := by
  cases h : edit.apply step.supply.fresh step.session.program with
  | error fault =>
      rw [Session.perform_edit_of_error h] at hperform
      exact .keeps (by rw [next, hperform]) (by rw [next, hperform]) (by rw [rest, hperform])
  | ok result =>
      obtain ⟨changed, reply⟩ := result
      rw [Session.perform_edit_of_ok h] at hperform
      refine .edits edit reply hcall ?_ (by rw [next, hperform]) ?_
      · rw [next, hperform]
        exact h
      · rw [rest, hperform]
        cases edit.draws <;> rfl

/-- A call that does what it is to ask for the flattening. -/
theorem does_of_flattened
    (hprogram : step.next.program = (step.session.flattened step.supply).2.1.program)
    (hcached : step.next.cached = (step.session.flattened step.supply).2.1.cached)
    (hrest : step.rest = (step.session.flattened step.supply).2.2) : step.Does := by
  cases h : step.session.cached with
  | none =>
      rw [Session.flattened_of_not_cached h] at hprogram hcached hrest
      exact .flattens h hprogram hcached (by rw [hrest])
  | some snapshot =>
      rw [Session.flattened_of_cached h] at hprogram hcached hrest
      exact .keeps hprogram hcached (by rw [hrest])

/-- **A call edits, flattens, or leaves program and flattening as they are.** -/
theorem does (step : Step) : step.Does := by
  obtain ⟨session, supply, call⟩ := step
  cases call with
  | edit edit => exact does_of_edit (Or.inl rfl) rfl
  | deleteFocused claimed =>
      by_cases hfocus : claimed = session.focus
      · exact does_of_edit (Or.inr ⟨claimed, rfl⟩) (Session.perform_deleteFocused_of_eq hfocus)
      · have hperform := Session.perform_deleteFocused_of_ne supply hfocus
        exact .keeps (by rw [next, hperform]) (by rw [next, hperform]) (by rw [rest, hperform])
  | setFocus actor => exact .keeps rfl rfl rfl
  | flattened => exact does_of_flattened rfl rfl rfl
  | run host => exact does_of_flattened rfl rfl rfl

/-- The program after a call is one that edits lead to. -/
theorem reaches_next {start : Program} (h : start.Reaches step.session.program)
    (hfresh : step.DrawsFresh) : start.Reaches step.next.program := by
  cases step.does with
  | keeps hprogram _ _ => exact hprogram ▸ h
  | edits edit reply hcall happly _ _ =>
      have hafter : edit.after step.supply.fresh step.session.program = step.next.program := by
        rw [Edit.after_eq, happly]
      rw [← hafter]
      refine .edit edit step.supply.fresh h ?_
      rcases hcall with hcall | ⟨claimed, rfl⟩
      · exact hfresh edit hcall
      · exact fun _ => trivial
  | flattens _ hprogram _ _ => exact hprogram ▸ h

end Step

/-! ## 4. Reachable sessions -/

namespace Session

variable {session : Session} {supply : Supply} {calls : List Call}

/-- **The program of a session is one that edits lead to** from the program it was opened on. -/
theorem reaches_after (hfresh : ∀ step ∈ session.steps supply calls, step.DrawsFresh) :
    session.program.Reaches (session.after supply calls).1.program ∧
      ∀ step ∈ session.steps supply calls, session.program.Reaches step.session.program :=
  invariant_after (fun now _ => session.program.Reaches now.program) Step.DrawsFresh
    (fun _ hdraws h => Step.reaches_next h hdraws) .start hfresh

/-- A session starts with the stage in focus and no flattening. -/
theorem Opened.eq_ofProgram (h : session.Opened) : session = .ofProgram session.program := by
  cases h with
  | new hnew =>
      obtain ⟨program, -, rfl⟩ := Except.map_eq_ok_iff.mp hnew
      rfl
  | ofProgram _ => rfl

theorem Opened.cached_eq_none (h : session.Opened) : session.cached = none :=
  congrArg Session.cached h.eq_ofProgram

theorem Opened.focus_eq (h : session.Opened) : session.focus = session.program.stageId :=
  congrArg Session.focus h.eq_ofProgram

theorem Opened.wellFormed (h : session.Opened) : session.program.WellFormed := by
  cases h with
  | new hnew =>
      obtain ⟨program, hstage, rfl⟩ := Except.map_eq_ok_iff.mp hnew
      exact Program.wellFormed_ofStage hstage
  | ofProgram hvalid => exact Program.validate_eq_ok_iff.mp hvalid

/-- **The program of a session is well formed.** -/
theorem Opened.wellFormed_after (h : session.Opened)
    (hfresh : ∀ step ∈ session.steps supply calls, step.DrawsFresh) :
    (session.after supply calls).1.program.WellFormed :=
  (reaches_after hfresh).1.wellFormed h.wellFormed

/-- So is the program at each step. -/
theorem Opened.wellFormed_of_mem_steps (h : session.Opened)
    (hfresh : ∀ step ∈ session.steps supply calls, step.DrawsFresh) {step : Step}
    (hstep : step ∈ session.steps supply calls) : step.session.program.WellFormed :=
  ((reaches_after hfresh).2 step hstep).wellFormed h.wellFormed

end Session

end Stagecraft
