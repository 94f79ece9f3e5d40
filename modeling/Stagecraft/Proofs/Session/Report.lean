import Stagecraft.Proofs.Flattening.Inverse
import Stagecraft.Proofs.Session.Cache

/-!
# What a run reports

In every session that calls lead to, a run gives the text of the current program to the host and
leads its failure back to the current program:

* `Program.WellFormed.attribution?_of_line`: an error on a line of the text is led back to the line
  of a body that stands there, with the name of the actor it belongs to;
* `Program.attribution?_of_no_line`: an error anywhere else is led back to nothing;
* `Session.Coherent.run_eq`: a run is told by the program, the focus and the host alone, whatever
  was flattened before;
* `Session.run_reports` puts the three together.
-/

namespace Stagecraft

/-! ## 1. Where a failure is led back to -/

namespace Program

variable {program : Program}

/-- **An error on a line of the text** is led back to the line of a body that stands there. -/
theorem WellFormed.attribution?_of_line (h : program.WellFormed) {line : Nat} (message : String)
    (output : List String) (hlow : 1 ≤ line) (hhigh : line ≤ program.flatten.map.lineCount) :
    ∃ actor ∈ program.actors, ∃ handler ∈ actor.handlers, ∃ k words, 1 ≤ k ∧
      handler.body[k - 1]? = some words ∧
      (Text.pieces program.flatten.text)[line - 1]? = some words ∧
      program.attribution? program.flatten (.failed (some line) message output) =
        some (.located ⟨actor.id, handler.id, k⟩ actor.name message) := by
  obtain ⟨⟨actorId, handlerId, k⟩, hl⟩ :=
    Option.isSome_iff_exists.mp ((isSome_locate_flatten_iff program line).mpr ⟨hlow, hhigh⟩)
  obtain ⟨actor, ha, handler, hh, rfl, rfl, hk, words, hbody, hpiece⟩ := h.body_of_locate hl
  refine ⟨actor, ha, handler, hh, k, words, hk, hbody, hpiece, ?_⟩
  have hname : program.nameOf actor.id = actor.name := by
    rw [nameOf, h.actor?_eq_some ha]
    rfl
  simp only [attribution?, Option.bind_some, hl, hname]

/-- **An error on no line of the text** is led back to nothing. -/
theorem attribution?_of_no_line {errorLine : Option Nat} (message : String) (output : List String)
    (h : ∀ line, errorLine = some line → line = 0 ∨ program.flatten.map.lineCount < line) :
    program.attribution? program.flatten (.failed errorLine message output) =
      some (.unattributable message) := by
  have hnone : errorLine.bind program.flatten.map.locate = none := by
    cases errorLine with
    | none => rfl
    | some line =>
        refine Option.not_isSome_iff_eq_none.mp fun hsome => ?_
        obtain ⟨hlow, hhigh⟩ := (isSome_locate_flatten_iff program line).mp hsome
        rcases h line rfl with rfl | hpast
        · exact absurd hlow (Nat.not_succ_le_zero 0)
        · exact absurd hhigh (Nat.not_le_of_gt hpast)
  simp only [attribution?, hnone]

end Program

/-! ## 2. Runs -/

namespace Session

variable {start session next : Session} {supply stock rest : Supply} {calls : List Call}
  {host : Host} {report : RunReport}

theorem focus_flattened : (session.flattened supply).2.1.focus = session.focus := by
  cases h : session.cached with
  | none => rw [flattened_of_not_cached h]
  | some snapshot => rw [flattened_of_cached h]

/-- The focus after a run, by the focus before it. -/
theorem focusAfterRun_flattened (attribution : Option Attribution) :
    (session.flattened supply).2.1.focusAfterRun attribution =
      session.focusAfterRun attribution := by
  unfold focusAfterRun
  split
  · rfl
  · exact focus_flattened

/-- **A run of a coherent session** is told by its program and focus and by the host. -/
theorem Coherent.run_eq (h : session.Coherent supply)
    (hrun : session.run host supply = (report, next, rest)) :
    report.snapshot.flattening = session.program.flatten ∧
    report.result = host session.program.flatten.text ∧
    report.attribution = session.program.attribution? session.program.flatten report.result ∧
    next.program = session.program ∧
    next.focus = session.focusAfterRun report.attribution := by
  have hmade := h.flattening_flattened
  obtain ⟨rfl, rfl, -⟩ : _ = report ∧ _ = next ∧ _ = rest := by
    simpa only [run, Prod.mk.injEq] using hrun
  refine ⟨hmade, ?_, ?_, program_flattened, focusAfterRun_flattened _⟩
  · rw [← hmade]
  · rw [← hmade, program_flattened]

/-- **What a run reports.** In every session that calls lead to, each id that was used up being new,
    a run gives the text of the current program to the host, whatever host that is, reports the
    flattening it ran and leaves the program as it is. A failure on a line of the text is led back
    to the line of a body that stands there, in a handler of an actor of the program, and the focus
    moves to the actor. A failure elsewhere is led back to nothing, a success has nothing to be led
    back, and both leave the focus. -/
theorem run_reports (hopen : start.Opened)
    (hfresh : ∀ step ∈ start.steps supply calls, step.DrawsFresh)
    (hafter : start.after supply calls = (session, stock))
    (hrun : session.run host stock = (report, next, rest)) :
    report.snapshot.flattening = session.program.flatten ∧
    report.result = host session.program.flatten.text ∧
    next.program = session.program ∧
    (∀ line message output, report.result = .failed (some line) message output → 1 ≤ line →
      line ≤ report.snapshot.flattening.map.lineCount →
      ∃ actor ∈ session.program.actors, ∃ handler ∈ actor.handlers, ∃ k words, 1 ≤ k ∧
        handler.body[k - 1]? = some words ∧
        (Text.pieces report.snapshot.flattening.text)[line - 1]? = some words ∧
        report.attribution = some (.located ⟨actor.id, handler.id, k⟩ actor.name message) ∧
        next.focus = actor.id) ∧
    (∀ errorLine message output, report.result = .failed errorLine message output →
      (∀ line, errorLine = some line →
        line = 0 ∨ report.snapshot.flattening.map.lineCount < line) →
      report.attribution = some (.unattributable message) ∧ next.focus = session.focus) ∧
    ∀ output, report.result = .success output →
      report.attribution = none ∧ next.focus = session.focus := by
  have hcoherent := (hopen.coherent_after supply calls).1
  have hwell := hopen.wellFormed_after hfresh
  rw [hafter] at hcoherent hwell
  obtain ⟨hsnapshot, hresult, hattribution, hprogram, hfocus⟩ := hcoherent.run_eq hrun
  rw [hsnapshot]
  refine ⟨rfl, hresult, hprogram, fun line message output hfailed hlow hhigh => ?_,
    fun errorLine message output hfailed hnoline => ?_, fun output hsuccess => ?_⟩
  · obtain ⟨actor, ha, handler, hh, k, words, hk, hbody, hpiece, hlocated⟩ :=
      hwell.attribution?_of_line message output hlow hhigh
    rw [hfailed, hlocated] at hattribution
    refine ⟨actor, ha, handler, hh, k, words, hk, hbody, hpiece, hattribution, ?_⟩
    rw [hfocus, hattribution]
    rfl
  · rw [hfailed, Program.attribution?_of_no_line message output hnoline] at hattribution
    refine ⟨hattribution, ?_⟩
    rw [hfocus, hattribution]
    rfl
  · rw [hsuccess] at hattribution
    refine ⟨hattribution, ?_⟩
    rw [hfocus, hattribution]
    rfl

/-- The cat's line fails after the cat got a new handler without lines in front, and with a focus
    that is on no actor. -/
theorem run_reports_cat :
    let start := ofProgram Program.catOnStage
    let supply : Supply := ⟨fun drawn => 10 + drawn, 0, 0⟩
    let calls : List Call :=
      [.flattened, .edit (.insertHandler ⟨2⟩ none .greenFlag), .setFocus ⟨9⟩]
    let host : Host := fun _ => .failed (some 3) "a is unknown" []
    let reached := start.after supply calls
    let made := reached.1.run host reached.2
    start.Opened ∧ (∀ step ∈ start.steps supply calls, step.DrawsFresh) ∧
      made.1.attribution = some (.located ⟨⟨2⟩, ⟨4⟩, 1⟩ "Cat" "a is unknown") ∧
      made.2.1.focus = ⟨2⟩ := by
  intro start supply calls host reached made
  have hopen : start.Opened := .ofProgram Program.validate_catOnStage
  have hfresh : ∀ step ∈ start.steps supply calls, step.DrawsFresh := by
    refine List.forall_mem_cons.mpr ⟨fun _ hcall => Call.noConfusion hcall, ?_⟩
    refine List.forall_mem_cons.mpr ⟨fun edit hcall _ => ?_, ?_⟩
    · cases hcall
      show (⟨10⟩ : HandlerId) ∉ Program.catOnStage.handlerIds
      decide
    · exact List.forall_mem_cons.mpr
        ⟨fun _ hcall => Call.noConfusion hcall, List.forall_mem_nil _⟩
  have hplace : made.1.attribution = some (.located ⟨⟨2⟩, ⟨4⟩, 1⟩ "Cat" "a is unknown") := by
    decide +kernel
  refine ⟨hopen, hfresh, hplace, ?_⟩
  have hafter : start.after supply calls = (reached.1, reached.2) := rfl
  have hrun : reached.1.run host reached.2 = (made.1, made.2.1, made.2.2) := rfl
  obtain ⟨-, -, -, hlocated, -⟩ := run_reports hopen hfresh hafter hrun
  obtain ⟨actor, -, handler, -, k, words, -, -, -, hattribution, hfocus⟩ :=
    hlocated 3 "a is unknown" [] rfl (by decide) (by decide)
  rw [hplace] at hattribution
  obtain ⟨hfound, -, -⟩ := Attribution.located.inj (Option.some.inj hattribution)
  exact hfocus.trans (congrArg Located.actor hfound).symm

end Session

end Stagecraft
