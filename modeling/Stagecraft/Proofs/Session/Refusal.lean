import Stagecraft.Proofs.Program.Validation
import Stagecraft.Proofs.Session.Run

/-!
# Refused calls leave no trace

A call is refused if its edit is not carried out, or if the caller takes another actor to be in
focus than the session does. A session keeps whatever program an edit leaves behind, and edits work
in place; so this is first of all about edits, which stop with a fault only before they have drawn
an id or changed anything (`Edit.bench_of_fault`).

* `Step.unchanged_of_isRefused`: a refused call leaves program, focus, flattening and supply as
  they are;
* `Session.steps_filter`: a run from which refused calls are left out goes through the same states
  and answers the calls that are left in the same way;
* `Session.refused_calls_leave_no_trace` says both.

The program need not be well formed, and ids need not be new.
-/

namespace Stagecraft

/-- Whether an answer refuses what was asked. -/
def Answer.isRefusal : Answer → Bool
  | .replied (.error _) => true
  | .focusMismatch .. => true
  | _ => false

/-! ## 1. One call -/

/-- Whether the call of a step is refused. -/
def Step.isRefused (step : Step) : Bool :=
  step.answer.isRefusal

namespace Session

variable {session : Session} {supply : Supply}

theorem perform_edit_of_isRefusal {edit : Edit}
    (h : (session.perform (.edit edit) supply).1.isRefusal = true) :
    (session.perform (.edit edit) supply).2 = (session, supply) := by
  cases happly : edit.apply supply.fresh session.program with
  | error fault => rw [perform_edit_of_error happly]
  | ok result =>
      obtain ⟨program, reply⟩ := result
      rw [perform_edit_of_ok happly] at h
      cases h

theorem perform_of_isRefusal {call : Call}
    (h : (session.perform call supply).1.isRefusal = true) :
    (session.perform call supply).2 = (session, supply) := by
  cases call with
  | edit edit => exact perform_edit_of_isRefusal h
  | deleteFocused claimed =>
      by_cases hfocus : claimed = session.focus
      · rw [perform_deleteFocused_of_eq hfocus] at h ⊢
        exact perform_edit_of_isRefusal h
      · rw [perform_deleteFocused_of_ne supply hfocus]
  | setFocus actor => cases h
  | flattened => cases h
  | run host => cases h

end Session

/-- **A refused call changes nothing**, and no id is used up. -/
theorem Step.unchanged_of_isRefused {step : Step} (h : step.isRefused = true) :
    step.next = step.session ∧ step.rest = step.supply := by
  have hstate := Session.perform_of_isRefusal h
  exact ⟨congrArg Prod.fst hstate, congrArg Prod.snd hstate⟩

/-! ## 2. All calls -/

namespace Session

/-- **A run without refused calls** goes through the states in which the other calls were made, and
    ends where the whole run does. -/
theorem steps_filter (removed : Step → Bool) : ∀ (calls : List Call) (session : Session)
    (supply : Supply),
    (∀ step ∈ session.steps supply calls, removed step = true → step.isRefused = true) →
    let kept := (session.steps supply calls).filter fun step => !removed step
    session.steps supply (kept.map Step.call) = kept ∧
      session.after supply (kept.map Step.call) = session.after supply calls
  | [], _, _, _ => ⟨rfl, rfl⟩
  | call :: calls, session, supply, h => by
      obtain ⟨hone, hmore⟩ := List.forall_mem_cons.mp h
      obtain ⟨hsteps, hafter⟩ := steps_filter removed calls _ _ hmore
      intro kept
      cases hremoved : removed ⟨session, supply, call⟩ with
      | true =>
          -- the rest of the run starts where the refused call was made
          obtain ⟨hnext, hrest⟩ := Step.unchanged_of_isRefused (hone hremoved)
          have hkept : kept = (session.steps supply calls).filter fun step => !removed step := by
            show List.filter _ (_ :: _) = _
            rw [List.filter_cons_of_neg (by simp [hremoved]), hnext, hrest]
          rw [hnext, hrest] at hsteps hafter
          rw [hkept, after, hnext, hrest]
          exact ⟨hsteps, hafter⟩
      | false =>
          have hkept : kept = ⟨session, supply, call⟩ ::
              ((Step.next ⟨session, supply, call⟩).steps (Step.rest ⟨session, supply, call⟩)
                calls).filter fun step => !removed step :=
            List.filter_cons_of_pos (by simp [hremoved])
          rw [hkept, List.map_cons, steps, after, after, hsteps, hafter]
          exact ⟨rfl, rfl⟩

variable {session : Session} {supply : Supply} {calls : List Call}

/-- **Refused calls leave no trace.** Take refused calls out of a run, all of them or some. The
    calls that are left are made in the same states as before, with the same ids to draw from, and
    so answered in the same way; the run ends with the same program, focus, flattening and supply.
    No refused call changes any of these, and no edit that stops with a fault, on whatever program
    it works in place, has changed anything by then or drawn an id. -/
theorem refused_calls_leave_no_trace (removed : Step → Bool)
    (hremoved : ∀ step ∈ session.steps supply calls,
      removed step = true → step.isRefused = true) :
    let kept := (session.steps supply calls).filter fun step => !removed step
    session.steps supply (kept.map Step.call) = kept ∧
    session.after supply (kept.map Step.call) = session.after supply calls ∧
    (∀ step : Step, step.isRefused = true →
      step.next = step.session ∧ step.rest = step.supply) ∧
    ∀ (edit : Edit) (bench : Bench) (fault : EditFault),
      (edit.carryOut.run bench).1 = .error fault → (edit.carryOut.run bench).2 = bench := by
  obtain ⟨hsteps, hafter⟩ := steps_filter removed calls session supply hremoved
  exact ⟨hsteps, hafter, fun _ h => Step.unchanged_of_isRefused h,
    fun _ _ _ h => Edit.bench_of_fault h⟩

/-- Of five calls three are refused: a name that is reserved, an actor that is not in focus, an
    index that is too large. The dog gets the first id all the same. -/
theorem dog_after_refused_calls :
    let start := ofProgram Program.catOnStage
    let supply : Supply := ⟨fun drawn => 10 + drawn, 0, 0⟩
    let calls : List Call := [.flattened, .edit (.renameActor ⟨2⟩ "for"), .deleteFocused ⟨2⟩,
      .edit (.insertActor 7 "Bird"), .edit (.insertActor 0 "Dog")]
    let left : List Call := [.flattened, .edit (.insertActor 0 "Dog")]
    start.after supply left = start.after supply calls ∧
      (start.after supply calls).1.program.actors.map Actor.id = [⟨1⟩, ⟨10⟩, ⟨2⟩] := by
  intro start supply calls left
  refine ⟨?_, by decide +kernel⟩
  have hleft : ((start.steps supply calls).filter fun step => !step.isRefused).map Step.call =
      left := rfl
  rw [← hleft]
  exact (refused_calls_leave_no_trace Step.isRefused fun _ _ h => h).2.1

end Session

end Stagecraft
