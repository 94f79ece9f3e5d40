import Stagecraft.Proofs.Session.Run

/-!
# The flattening of a session is never stale

A session keeps the flattening it made last, and hands out snapshots of it. Whatever is called in
whatever order, refused calls and faults of the caller among them:

* `Session.Coherent.next`: while a flattening is kept, it is the one of the current program, and
  its serial number is used up;
* `Session.Holds.next`: a snapshot that was handed out stays the only one with its serial number;
* `Session.never_stale` follows the two through all calls.

No id has to be new for that.
-/

namespace Stagecraft

/-- The snapshot that an answer hands out. -/
def Answer.snapshot? : Answer → Option Snapshot
  | .snapshot given => some given
  | .report given => some given.snapshot
  | _ => none

namespace Session

variable {session : Session} {supply : Supply} {calls : List Call} {step : Step}
  {snapshot : Snapshot}

/-! ## 1. The flattening that is kept -/

/-- A flattening that is kept is up to date, and its serial number is used up. -/
structure Coherent (session : Session) (supply : Supply) : Prop where
  current : ∀ snapshot, session.cached = some snapshot →
    snapshot.flattening = session.program.flatten
  numbered : ∀ snapshot, session.cached = some snapshot → snapshot.serial < supply.issued

/-- No flattening is kept at first. -/
theorem Opened.coherent (h : session.Opened) : session.Coherent supply where
  current _ hcached := by rw [h.cached_eq_none] at hcached; cases hcached
  numbered _ hcached := by rw [h.cached_eq_none] at hcached; cases hcached

/-- **A step keeps a session coherent.** -/
theorem Coherent.next (h : step.session.Coherent step.supply) : step.next.Coherent step.rest := by
  cases step.does with
  | keeps hprogram hcached hissued =>
      refine ⟨fun snapshot hs => ?_, fun snapshot hs => ?_⟩
      · rw [hprogram]
        exact h.current snapshot (hcached.symm.trans hs)
      · rw [hissued]
        exact h.numbered snapshot (hcached.symm.trans hs)
  | edits edit reply _ _ hcached _ =>
      refine ⟨fun snapshot hs => ?_, fun snapshot hs => ?_⟩
      all_goals
        rw [hcached] at hs
        cases hs
  | flattens _ hprogram hcached hissued =>
      refine ⟨fun snapshot hs => ?_, fun snapshot hs => ?_⟩
      all_goals
        rw [hcached] at hs
        cases hs
      · rw [hprogram]
      · rw [hissued]
        exact Nat.lt_succ_self _

/-- **So do all steps.** -/
theorem Opened.coherent_after (h : session.Opened) (supply : Supply) (calls : List Call) :
    (session.after supply calls).1.Coherent (session.after supply calls).2 ∧
      ∀ step ∈ session.steps supply calls, step.session.Coherent step.supply :=
  invariant_after Coherent (fun _ => True) (fun _ _ hc => hc.next) h.coherent fun _ _ => trivial

/-! ## 2. What is handed out -/

theorem program_flattened : (session.flattened supply).2.1.program = session.program := by
  cases h : session.cached with
  | none => rw [flattened_of_not_cached h]
  | some snapshot => rw [flattened_of_cached h]

/-- What is handed out is kept. -/
theorem cached_flattened :
    (session.flattened supply).2.1.cached = some (session.flattened supply).1 := by
  cases h : session.cached with
  | none => rw [flattened_of_not_cached h]
  | some snapshot => rw [flattened_of_cached h, h]

/-- What is handed out is up to date. -/
theorem Coherent.flattening_flattened (h : session.Coherent supply) :
    (session.flattened supply).1.flattening = session.program.flatten := by
  cases hcached : session.cached with
  | none => rw [flattened_of_not_cached hcached]
  | some snapshot =>
      rw [flattened_of_cached hcached]
      exact h.current snapshot hcached

/-- A call that hands out a snapshot has asked for the flattening. -/
theorem snapshot_eq_of_answer (h : step.answer.snapshot? = some snapshot) :
    snapshot = (step.session.flattened step.supply).1 ∧ step.next.cached = some snapshot := by
  obtain ⟨session, supply, call⟩ := step
  cases call with
  | edit edit => cases h
  | deleteFocused claimed =>
      have hnone : (Step.answer ⟨session, supply, .deleteFocused claimed⟩).snapshot? = none := by
        simp only [Step.answer, perform]
        split <;> rfl
      rw [hnone] at h
      cases h
  | setFocus actor => cases h
  | flattened =>
      have heq : (session.flattened supply).1 = snapshot := Option.some.inj h
      exact ⟨heq.symm, heq ▸ cached_flattened⟩
  | run host =>
      have heq : (session.flattened supply).1 = snapshot := Option.some.inj h
      exact ⟨heq.symm, heq ▸ cached_flattened⟩

/-! ## 3. What was handed out -/

/-- A snapshot keeps its serial number to itself. -/
structure Holds (snapshot : Snapshot) (session : Session) (supply : Supply) : Prop where
  used : snapshot.serial < supply.issued
  unique : ∀ cached, session.cached = some cached → cached.serial = snapshot.serial →
    cached = snapshot

theorem Coherent.holds (h : session.Coherent supply) (hcached : session.cached = some snapshot) :
    Holds snapshot session supply where
  used := h.numbered snapshot hcached
  unique _ hother _ := Option.some.inj (hother.symm.trans hcached)

/-- **A step leaves a snapshot its serial number.** -/
theorem Holds.next (h : Holds snapshot step.session step.supply) :
    Holds snapshot step.next step.rest := by
  cases step.does with
  | keeps _ hcached hissued =>
      exact ⟨hissued ▸ h.used, fun cached hs => h.unique cached (hcached.symm.trans hs)⟩
  | edits edit reply _ _ hcached hissued =>
      refine ⟨hissued ▸ h.used, fun cached hs => ?_⟩
      rw [hcached] at hs
      cases hs
  | flattens _ _ hcached hissued =>
      refine ⟨by rw [hissued]; exact Nat.lt_succ_of_lt h.used, fun cached hs hserial => ?_⟩
      rw [hcached] at hs
      cases hs
      -- a serial number that is used up is not given out again
      exact absurd hserial (Nat.ne_of_gt h.used)

/-- **The flattening of a session is never stale.** After any calls on a session that was opened,
    the flattening it keeps is the one of its program, and so is the one it hands out. What a call
    handed out was the flattening of the program at that time, and no later call hands out
    anything else under its serial number. -/
theorem never_stale (hopen : session.Opened) (supply : Supply) (calls : List Call) :
    let reached := session.after supply calls
    (∀ snapshot, reached.1.cached = some snapshot →
      snapshot.flattening = reached.1.program.flatten) ∧
    (reached.1.flattened reached.2).1.flattening = reached.1.program.flatten ∧
    ∀ before step later, session.steps supply calls = before ++ step :: later →
      ∀ snapshot, step.answer.snapshot? = some snapshot →
        snapshot.flattening = step.session.program.flatten ∧
        (∀ next ∈ later, ∀ other, next.answer.snapshot? = some other →
          other.serial = snapshot.serial → other = snapshot) ∧
        ∀ cached, reached.1.cached = some cached → cached.serial = snapshot.serial →
          cached = snapshot := by
  intro reached
  obtain ⟨hend, hsteps⟩ := hopen.coherent_after supply calls
  refine ⟨hend.current, hend.flattening_flattened, fun before step later hsplit snapshot hs => ?_⟩
  have hcoherent : step.session.Coherent step.supply :=
    hsteps step (hsplit ▸ List.mem_append_right before List.mem_cons_self)
  obtain ⟨hsnapshot, hcached⟩ := snapshot_eq_of_answer hs
  refine ⟨hsnapshot ▸ hcoherent.flattening_flattened, ?_⟩
  -- from the step on, the snapshot holds its serial number
  obtain ⟨more, rfl, hafter⟩ := exists_calls_after_step hsplit
  obtain ⟨hholds, hlater⟩ := invariant_after (Holds snapshot) (fun _ => True)
    (fun _ _ h => h.next) (hcoherent.next.holds hcached) fun _ _ => trivial
  refine ⟨fun next hnext other hother => ?_, fun cached hc => ?_⟩
  · exact (hlater next hnext).next.unique other (snapshot_eq_of_answer hother).2
  · exact hholds.unique cached (hafter ▸ hc)

/-- A line written after the first flattening is in the next one. Before that the stage, which is in
    focus, was not deleted. -/
theorem flattened_with_a_line_more :
    let start := ofProgram Program.catOnStage
    let reached := start.after ⟨fun drawn => 10 + drawn, 0, 0⟩
      [.flattened, .deleteFocused ⟨1⟩, .edit (.setBody ⟨2⟩ ⟨5⟩ ["print(1);"])]
    start.Opened ∧
      (reached.1.flattened reached.2).1.flattening.text =
        "let a = 1;\n\nprint(a);\nprint(1);" := by
  intro start reached
  have hopen : start.Opened := .ofProgram Program.validate_catOnStage
  refine ⟨hopen, ?_⟩
  rw [(never_stale hopen _ _).2.1]
  decide

end Session

end Stagecraft
