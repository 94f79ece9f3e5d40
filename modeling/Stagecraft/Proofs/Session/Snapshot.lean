import Stagecraft.Proofs.Program.Identity
import Stagecraft.Proofs.Session.Report

/-!
# Snapshots keep resolving

A run result can be led back by a snapshot that is out of date. The program may have been edited in
any way since.

* `Program.owns_of_located`: what a failure is led back to is a handler of the program that ran;
* `Program.attribution?_eq_renamed`: the program that an attribution is made for lends the actor's
  name and nothing else;
* `Step.owns_of_next`, `Session.owned_or_gone_after`: if no id is used a second time, a handler goes
  to no other actor and does not come back;
* `Session.snapshots_keep_resolving` is about any snapshot of any run.
-/

namespace Stagecraft

namespace Program

variable {program : Program}

/-! ## 1. What is located -/

/-- **What is located is there.** -/
theorem owns_of_locate {line : Nat} {found : Located}
    (h : program.flatten.map.locate line = some found) :
    program.Owns found.actor found.handler := by
  obtain ⟨index, words, -, hplaced⟩ := getElem?_of_locate h
  obtain ⟨actor, ha, handler, hh, hactor, hhandler, -⟩ :=
    mem_placedLines.mp (List.mem_of_getElem? hplaced)
  exact ⟨actor, ha, hactor.symm, hhandler ▸ List.mem_map_of_mem hh⟩

theorem exists_locate_of_located {ran : Flattening} {result : RunResult} {place : Located}
    {name message : String}
    (h : program.attribution? ran result = some (.located place name message)) :
    ∃ line, ran.map.locate line = some place := by
  cases result with
  | success output => cases h
  | failed errorLine text output =>
      cases hfound : errorLine.bind ran.map.locate with
      | none =>
          simp only [attribution?, hfound] at h
          cases h
      | some found =>
          simp only [attribution?, hfound] at h
          cases h
          obtain ⟨line, -, hline⟩ := Option.bind_eq_some_iff.mp hfound
          exact ⟨line, hline⟩

/-- What a run of the program's own text is led back to is there. -/
theorem owns_of_located {result : RunResult} {place : Located} {name message : String}
    (h : program.attribution? program.flatten result = some (.located place name message)) :
    program.Owns place.actor place.handler := by
  obtain ⟨_, hline⟩ := exists_locate_of_located h
  exact owns_of_locate hline

end Program

/-! ## 2. The name -/

/-- An attribution with the name that the actor has in a program. -/
def Attribution.renamed (program : Program) : Attribution → Attribution
  | .located place _ message => .located place (program.nameOf place.actor) message
  | .unattributable message => .unattributable message

namespace Program

/-- **Two programs attribute alike**, up to the name. -/
theorem attribution?_eq_renamed (program other : Program) (ran : Flattening) (result : RunResult) :
    other.attribution? ran result =
      (program.attribution? ran result).map (Attribution.renamed other) := by
  cases result with
  | success output => rfl
  | failed errorLine message output =>
      cases hfound : errorLine.bind ran.map.locate with
      | none => simp only [attribution?, hfound, Option.map_some, Attribution.renamed]
      | some found => simp only [attribution?, hfound, Option.map_some, Attribution.renamed]

/-- The name of an id is an actor's or empty. -/
theorem nameOf_cases (program : Program) (id : ActorId) :
    (∃ actor ∈ program.actors, actor.id = id ∧ program.nameOf id = actor.name) ∨
      id ∉ program.actors.map Actor.id ∧ program.nameOf id = "" := by
  unfold nameOf
  cases hfound : program.actor? id with
  | some actor =>
      obtain ⟨before, after, hactors, hid⟩ := exists_eq_append_of_actor? hfound
      exact Or.inl ⟨actor, mem_of_actor? hfound, hid, rfl⟩
  | none =>
      refine Or.inr ⟨fun hmem => ?_, rfl⟩
      obtain ⟨actor, ha, rfl⟩ := List.mem_map.mp hmem
      exact List.find?_eq_none.mp hfound actor ha (decide_eq_true rfl)

end Program

/-! ## 3. No handler comes back -/

/-- An id that the call uses up is new to a program; `Step.DrawsFresh` is that for the program of
    the call itself. -/
def Step.DrawsNewTo (step : Step) (seen : Program) : Prop :=
  ∀ edit, step.call = .edit edit →
    (edit.apply step.supply.fresh step.session.program).isOk = true →
      edit.IsNew step.supply.fresh seen

/-- **No id is used a second time**: an id that a call uses up is new to the program of the call and
    to those of all calls before. -/
structure NeverReuses (steps : List Step) : Prop where
  fresh : ∀ step ∈ steps, step.DrawsFresh
  unseen : steps.Pairwise fun earlier step => step.DrawsNewTo earlier.session.program

theorem NeverReuses.drawsNewTo {before later : List Step} {step : Step}
    (h : NeverReuses (before ++ step :: later)) :
    ∀ next ∈ step :: later, next.DrawsNewTo step.session.program := by
  have hunseen := h.unseen
  rw [List.pairwise_append, List.pairwise_cons] at hunseen
  obtain ⟨-, ⟨hlater, -⟩, -⟩ := hunseen
  exact List.forall_mem_cons.mpr
    ⟨h.fresh step (List.mem_append_right before List.mem_cons_self), hlater⟩

variable {handler : HandlerId} {owner : ActorId}

/-- **No call brings a handler back** that a program seen before had, or gives it to another
    actor. -/
theorem Step.owns_of_next {step : Step} {seen : Program} (hnew : step.DrawsNewTo seen)
    (hseen : handler ∈ seen.handlerIds) (h : step.next.program.Owns owner handler) :
    step.session.program.Owns owner handler := by
  cases step.does with
  | keeps hprogram _ _ => exact hprogram ▸ h
  | flattens _ hprogram _ _ => exact hprogram ▸ h
  | edits edit reply hcall happly _ _ =>
      refine Program.owns_of_apply_of_isNew ?_ hseen happly h
      rcases hcall with hcall | ⟨claimed, rfl⟩
      · exact hnew edit hcall (by rw [happly]; rfl)
      · exact trivial

namespace Session

variable {session : Session} {supply : Supply} {calls : List Call}

/-- **Nor do all calls together**: whose handler it is afterwards, it was at the start. -/
theorem owns_of_after
    (hnew : ∀ step ∈ session.steps supply calls, step.DrawsNewTo session.program)
    (hseen : handler ∈ session.program.handlerIds)
    (h : (session.after supply calls).1.program.Owns owner handler) :
    session.program.Owns owner handler :=
  (invariant_after
    (fun now _ => ∀ owner, now.program.Owns owner handler → session.program.Owns owner handler)
    (fun step => step.DrawsNewTo session.program)
    (fun _ hdraws hkept owner hnext => hkept owner (Step.owns_of_next hdraws hseen hnext))
    (fun _ howns => howns) hnew).1 owner h

/-- **A handler stays with its actor until it is gone.** -/
theorem owned_or_gone_after (supply : Supply) (calls : List Call)
    (hwell : session.program.WellFormed)
    (hnew : ∀ step ∈ session.steps supply calls, step.DrawsNewTo session.program)
    (howns : session.program.Owns owner handler) :
    let now := (session.after supply calls).1.program
    (now.Owns owner handler ∧ ∀ other, now.Owns other handler → other = owner) ∨
      handler ∉ now.handlerIds := by
  intro now
  have hseen : handler ∈ session.program.handlerIds :=
    Program.mem_handlerIds_iff_owns.mpr ⟨owner, howns⟩
  have honly : ∀ other, now.Owns other handler → other = owner :=
    fun other h => hwell.owner_unique (owns_of_after hnew hseen h) howns
  by_cases hthere : handler ∈ now.handlerIds
  · obtain ⟨other, hother⟩ := Program.mem_handlerIds_iff_owns.mp hthere
    exact Or.inl ⟨honly other hother ▸ hother, honly⟩
  · exact Or.inr hthere

/-! ## 4. Snapshots of any run -/

/-- **Old snapshots keep resolving.** Let a call of a session hand out a snapshot, and let any calls
    follow. Whatever the result of a run of the snapshot is, the program that is there in the end
    attributes it as the program did that was there when the snapshot was handed out: to nothing, to
    no handler, or to the same line of the same handler of the same actor, with the same message.
    The actor was there, with the handler. Its name is the one it has in the end, or empty if it is
    not there any more. If no id is used a second time, the handler is in the end still this actor's
    and nobody else's, or it is gone. -/
theorem snapshots_keep_resolving (hopen : session.Opened) {before later : List Step} {step : Step}
    {snapshot : Snapshot} (hsplit : session.steps supply calls = before ++ step :: later)
    (hgiven : step.answer.snapshot? = some snapshot) (result : RunResult) :
    let ran := snapshot.flattening
    let made := step.session.program
    let now := (session.after supply calls).1.program
    (made.attribution? ran result = none → now.attribution? ran result = none) ∧
    (∀ message, made.attribution? ran result = some (.unattributable message) →
      now.attribution? ran result = some (.unattributable message)) ∧
    ∀ place name message, made.attribution? ran result = some (.located place name message) →
      made.Owns place.actor place.handler ∧
      (∃ nameNow, now.attribution? ran result = some (.located place nameNow message) ∧
        ((∃ actor ∈ now.actors, actor.id = place.actor ∧ nameNow = actor.name) ∨
          place.actor ∉ now.actors.map Actor.id ∧ nameNow = "")) ∧
      (NeverReuses (session.steps supply calls) →
        (now.Owns place.actor place.handler ∧
          ∀ owner, now.Owns owner place.handler → owner = place.actor) ∨
        place.handler ∉ now.handlerIds) := by
  intro ran made now
  have hnow := made.attribution?_eq_renamed now ran result
  have hstep : step ∈ session.steps supply calls :=
    hsplit ▸ List.mem_append_right before List.mem_cons_self
  -- what was handed out is the flattening of the program at the step
  have hran : ran = made.flatten := by
    obtain ⟨rfl, -⟩ := snapshot_eq_of_answer hgiven
    exact ((hopen.coherent_after supply calls).2 step hstep).flattening_flattened
  refine ⟨fun h => ?_, fun message h => ?_, fun place name message h => ?_⟩
  · rw [hnow, h]
    rfl
  · rw [hnow, h]
    rfl
  · have howns : made.Owns place.actor place.handler := Program.owns_of_located (hran ▸ h)
    refine ⟨howns, ⟨now.nameOf place.actor, ?_, now.nameOf_cases place.actor⟩, fun hreuse => ?_⟩
    · rw [hnow, h]
      rfl
    · have hwell : made.WellFormed := hopen.wellFormed_of_mem_steps hreuse.fresh hstep
      obtain ⟨more, rfl, hafter⟩ := exists_calls_after_step hsplit
      rw [hsplit] at hreuse
      have hend : now = (step.session.after step.supply (step.call :: more)).1.program :=
        congrArg (fun reached => reached.1.program) hafter
      rw [hend]
      exact owned_or_gone_after step.supply (step.call :: more) hwell hreuse.drawsNewTo howns

/-- The cat is renamed and the handler that ran is left without lines; the stage gets one more under
    a new id. The failure is led back to the cat's handler still, under the cat's new name. -/
theorem cat_resolves_under_new_name :
    let start := ofProgram Program.catOnStage
    let supply : Supply := ⟨fun drawn => 10 + drawn, 0, 0⟩
    let calls : List Call := [.flattened, .edit (.renameActor ⟨2⟩ "Tom"),
      .edit (.setBody ⟨2⟩ ⟨4⟩ []), .edit (.insertHandler ⟨1⟩ none .greenFlag)]
    let now := (start.after supply calls).1.program
    let ran := Program.catOnStage.flatten
    start.Opened ∧ NeverReuses (start.steps supply calls) ∧
      now.attribution? ran (.failed (some 3) "a is unknown" []) =
        some (.located ⟨⟨2⟩, ⟨4⟩, 1⟩ "Tom" "a is unknown") ∧
      ∀ owner, now.Owns owner ⟨4⟩ → owner = ⟨2⟩ := by
  intro start supply calls now ran
  have hopen : start.Opened := .ofProgram Program.validate_catOnStage
  -- only the last call draws an id, and no program before has it
  have hten : ∀ seen ∈ start.steps supply calls,
      (⟨10⟩ : HandlerId) ∉ seen.session.program.handlerIds := by
    decide
  have hnew : ∀ step ∈ start.steps supply calls, ∀ seen ∈ start.steps supply calls,
      step.DrawsNewTo seen.session.program := by
    refine List.forall_mem_cons.mpr ⟨fun _ _ _ hcall => Call.noConfusion hcall, ?_⟩
    refine List.forall_mem_cons.mpr ⟨fun _ _ edit hcall _ => ?_, ?_⟩
    · cases hcall
      exact trivial
    refine List.forall_mem_cons.mpr ⟨fun _ _ edit hcall _ => ?_, ?_⟩
    · cases hcall
      exact trivial
    refine List.forall_mem_cons.mpr ⟨fun seen hseen edit hcall _ => ?_, List.forall_mem_nil _⟩
    cases hcall
    exact hten seen hseen
  have hreuse : NeverReuses (start.steps supply calls) :=
    ⟨fun step hstep => hnew step hstep step hstep,
      List.pairwise_of_forall_mem_list fun seen hseen step hstep => hnew step hstep seen hseen⟩
  have hsplit : start.steps supply calls =
      [] ++ ⟨start, supply, .flattened⟩ :: (start.steps supply calls).tail := rfl
  have hgiven : (Step.answer ⟨start, supply, .flattened⟩).snapshot? = some ⟨0, ran⟩ := rfl
  obtain ⟨-, -, hlocated⟩ := snapshots_keep_resolving hopen hsplit hgiven
    (.failed (some 3) "a is unknown" [])
  obtain ⟨-, ⟨name, hattribution, hname⟩, hkept⟩ :=
    hlocated ⟨⟨2⟩, ⟨4⟩, 1⟩ "Cat" "a is unknown" (by decide +kernel)
  have htom : name = "Tom" := by
    rcases hname with ⟨actor, ha, hid, rfl⟩ | ⟨hgone, -⟩
    · have hnames : ∀ actor ∈ now.actors, actor.id = ⟨2⟩ → actor.name = "Tom" := by
        decide +kernel
      exact hnames actor ha hid
    · exact absurd (by decide +kernel) hgone
  refine ⟨hopen, hreuse, htom ▸ hattribution, ?_⟩
  exact ((hkept hreuse).resolve_right (not_not.mpr (by decide +kernel))).2

end Session

end Stagecraft
