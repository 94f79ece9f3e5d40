import Stagecraft.Program.Edit

/-!
# Edits in place, and as functions

An operation that works on a program in place comes to the same as a function from programs to
programs, which is easier to reason about.

* `Program.insertActor` and the others are the functions: a changed program or a fault;
* `Editing.run_insertActor` and the others: to work in place is to put the changed program on the
  bench, with an id used up if something is made, or to stop with the same fault and leave the bench
  as it was;
* `Edit.run_carryOut` says so of every edit. `Edit.apply_eq_result` and `Edit.after_of_ok` follow,
  and so does `Edit.bench_of_fault`: no fault comes after the first change.
-/

namespace Stagecraft

namespace Program

/-! ## 1. What an operation makes of a program -/

/-- Puts a new sprite without handlers directly after the actor at index `after`. -/
def insertActor (program : Program) (after : Nat) (name : String) (fresh : ActorId) :
    Except EditFault Program :=
  if program.actors.length ≤ after then .error (.indexOutOfRange after program.actors.length)
  else
    match Name.fault? program.names name with
    | some fault => .error (.badName name fault)
    | none => .ok ⟨program.actors.insertIdx (after + 1) ⟨fresh, .sprite, name, []⟩⟩

/-- Puts a new sprite after all actors. -/
def appendSprite (program : Program) (name : String) (fresh : ActorId) :
    Except EditFault Program :=
  program.insertActor (program.actors.length - 1) name fresh

/-- Takes a sprite with its handlers out, and tells which actor stands before it. -/
def deleteActor (program : Program) (actor : ActorId) : Except EditFault (Program × ActorId) :=
  if program.stageId = actor then .error .stageStays
  else
    match program.actorIndex? actor with
    | none => .error (.unknownActor actor)
    | some index => .ok (⟨program.actors.eraseIdx index⟩, program.idAt (index - 1))

/-- Gives an actor a name that no other actor has. -/
def renameActor (program : Program) (actor : ActorId) (name : String) : Except EditFault Program :=
  match program.actor? actor with
  | none => .error (.unknownActor actor)
  | some _ =>
    let others := (program.actors.filter (·.id ≠ actor)).map Actor.name
    match Name.fault? others name with
    | some fault => .error (.badName name fault)
    | none => .ok (program.updateActor actor fun a => { a with name := name })

/-- Rearranges the actors. The stage stays first. -/
def reorderActors (program : Program) (order : List ActorId) : Except EditFault Program :=
  match orderFault? (program.actors.map Actor.id) order with
  | some fault => .error (.badOrder fault)
  | none =>
    if order.head? = some program.stageId then .ok ⟨arrange Actor.id program.actors order⟩
    else .error (.badOrder .stageMoved)

/-- Puts a new handler with an empty body in front, or directly after the handler at index
    `after`. -/
def insertHandler (program : Program) (actor : ActorId) (after : Option Nat) (trigger : Trigger)
    (fresh : HandlerId) : Except EditFault Program :=
  match program.actor? actor with
  | none => .error (.unknownActor actor)
  | some a =>
    match after with
    | none => .ok (program.updateHandlers actor (⟨fresh, trigger, []⟩ :: ·))
    | some index =>
      if index < a.handlers.length then
        .ok (program.updateHandlers actor (·.insertIdx (index + 1) ⟨fresh, trigger, []⟩))
      else .error (.indexOutOfRange index a.handlers.length)

/-- The fault of naming a handler that the actor does not have, if it is one. -/
def missing? (program : Program) (actor : ActorId) (handler : HandlerId) : Option EditFault :=
  match program.actor? actor with
  | none => some (.unknownActor actor)
  | some a => if (a.handler? handler).isSome then none else some (.unknownHandler actor handler)

/-- Takes a handler out. -/
def deleteHandler (program : Program) (actor : ActorId) (handler : HandlerId) :
    Except EditFault Program :=
  match program.missing? actor handler with
  | some fault => .error fault
  | none => .ok (program.updateHandlers actor (·.eraseP (·.id = handler)))

/-- Rearranges the handlers of an actor. -/
def reorderHandlers (program : Program) (actor : ActorId) (order : List HandlerId) :
    Except EditFault Program :=
  match program.actor? actor with
  | none => .error (.unknownActor actor)
  | some a =>
    match orderFault? (a.handlers.map Handler.id) order with
    | some fault => .error (.badOrder fault)
    | none => .ok (program.updateHandlers actor (arrange Handler.id · order))

/-- Replaces the body of a handler. -/
def setBody (program : Program) (actor : ActorId) (handler : HandlerId) (lines : List String) :
    Except EditFault Program :=
  match program.missing? actor handler with
  | some fault => .error fault
  | none =>
    match lines.findIdx? Text.hasBreak with
    | some index => .error (.brokenLine index)
    | none => .ok (program.updateHandler actor handler fun h => { h with body := lines })

/-- Replaces the body of a handler by the lines of a text. -/
def setBodyText (program : Program) (actor : ActorId) (handler : HandlerId) (text : String) :
    Except EditFault Program :=
  program.setBody actor handler (Text.lines text)

/-- Replaces the trigger of a handler. -/
def setTrigger (program : Program) (actor : ActorId) (handler : HandlerId) (trigger : Trigger) :
    Except EditFault Program :=
  match program.missing? actor handler with
  | some fault => .error fault
  | none => .ok (program.updateHandler actor handler fun h => { h with trigger := trigger })

end Program

/-- What an edit makes of a program, and what it answers; `fresh` is the id of what it makes. -/
def Edit.result (edit : Edit) (fresh : Ident) (program : Program) :
    Except EditFault (Program × Reply) :=
  match edit with
  | .insertActor after name =>
    (·, .actor ⟨fresh⟩) <$> program.insertActor after name ⟨fresh⟩
  | .appendSprite name => (·, .actor ⟨fresh⟩) <$> program.appendSprite name ⟨fresh⟩
  | .deleteActor actor =>
    (fun made => (made.1, .actor made.2)) <$> program.deleteActor actor
  | .renameActor actor name => (·, .done) <$> program.renameActor actor name
  | .reorderActors order => (·, .done) <$> program.reorderActors order
  | .insertHandler actor after trigger =>
    (·, .handler ⟨fresh⟩) <$> program.insertHandler actor after trigger ⟨fresh⟩
  | .deleteHandler actor handler => (·, .done) <$> program.deleteHandler actor handler
  | .reorderHandlers actor order => (·, .done) <$> program.reorderHandlers actor order
  | .setBody actor handler lines => (·, .done) <$> program.setBody actor handler lines
  | .setBodyText actor handler text => (·, .done) <$> program.setBodyText actor handler text
  | .setTrigger actor handler trigger => (·, .done) <$> program.setTrigger actor handler trigger

/-! ## 2. Steps -/

/-- A bench after work that makes of its program what is given: the changed program is put there,
    and a fault leaves everything as it was. -/
def Bench.settle {α : Type} (bench : Bench) (draws : Bool) :
    Except EditFault (Program × α) → Except EditFault α × Bench
  | .ok (changed, answer) =>
    (.ok answer, ⟨changed, if draws then bench.supply.next else bench.supply⟩)
  | .error fault => (.error fault, bench)

namespace Editing

variable {α β : Type} {bench : Bench}

theorem run_bind (work : Editing α) (more : α → Editing β) (bench : Bench) :
    (work >>= more).run bench =
      match work.run bench with
      | (.ok a, left) => (more a).run left
      | (.error fault, left) => (.error fault, left) := by
  show (match work.run bench with
    | (outcome, left) => (ExceptT.bindCont (ε := EditFault) more outcome : StateM Bench _) left) = _
  cases work.run bench with
  | mk outcome left => cases outcome <;> rfl

theorem run_map (f : α → β) (work : Editing α) (bench : Bench) :
    (f <$> work).run bench = (f <$> (work.run bench).1, (work.run bench).2) := by
  show (work >>= fun a => pure (f a)).run bench = _
  rw [run_bind]
  cases work.run bench with
  | mk outcome left => cases outcome <;> rfl

theorem run_program_bind (work : Program → Editing α) (bench : Bench) :
    (program >>= work).run bench = (work bench.program).run bench := rfl

theorem run_check_bind (fault? : Option EditFault) (work : Unit → Editing α) (bench : Bench) :
    (check fault? >>= work).run bench =
      match fault? with
      | some fault => (.error fault, bench)
      | none => (work ()).run bench := by
  cases fault? <;> rfl

theorem run_checkName_bind (existing : List String) (name : String) (work : Unit → Editing α)
    (bench : Bench) :
    (checkName existing name >>= work).run bench =
      match Name.fault? existing name with
      | some fault => (.error (.badName name fault), bench)
      | none => (work ()).run bench := by
  unfold checkName
  rw [run_check_bind]
  cases Name.fault? existing name <;> rfl

theorem run_checkOrder_bind {κ : Type} [DecidableEq κ] (current proposed : List κ)
    (work : Unit → Editing α) (bench : Bench) :
    (checkOrder current proposed >>= work).run bench =
      match orderFault? current proposed with
      | some fault => (.error (.badOrder fault), bench)
      | none => (work ()).run bench := by
  unfold checkOrder
  rw [run_check_bind]
  cases orderFault? current proposed <;> rfl

theorem run_requireActor_bind (actor : ActorId) (work : Actor → Editing α) (bench : Bench) :
    (requireActor actor >>= work).run bench =
      match bench.program.actor? actor with
      | some found => (work found).run bench
      | none => (.error (.unknownActor actor), bench) := by
  rw [run_bind]
  unfold requireActor
  rw [run_program_bind]
  cases bench.program.actor? actor <;> rfl

/-- A handler is missed for what `Program.missing?` says. -/
theorem run_requireHandler_bind (actor : ActorId) (handler : HandlerId)
    (work : Editing α) (bench : Bench) :
    (requireHandler actor handler >>= fun _ => work).run bench =
      match bench.program.missing? actor handler with
      | some fault => (.error fault, bench)
      | none => work.run bench := by
  rw [run_bind]
  unfold requireHandler Program.missing?
  rw [run_requireActor_bind]
  cases bench.program.actor? actor with
  | none => rfl
  | some found =>
      dsimp only
      cases found.handler? handler <;> rfl

/-! ## 3. Operations -/

theorem run_insertActor (after : Nat) (name : String) (bench : Bench) :
    (insertActor after name).run bench = bench.settle true
      ((·, ⟨bench.supply.fresh⟩) <$>
        bench.program.insertActor after name ⟨bench.supply.fresh⟩) := by
  unfold insertActor Program.insertActor
  rw [run_program_bind]
  by_cases hlength : bench.program.actors.length ≤ after
  · rw [if_pos hlength, if_pos hlength]
    rfl
  · rw [if_neg hlength, if_neg hlength]
    show (checkName bench.program.names name >>= _).run bench = _
    rw [run_checkName_bind]
    cases Name.fault? bench.program.names name <;> rfl

theorem run_appendSprite (name : String) (bench : Bench) :
    (appendSprite name).run bench = bench.settle true
      ((·, ⟨bench.supply.fresh⟩) <$>
        bench.program.appendSprite name ⟨bench.supply.fresh⟩) :=
  run_insertActor _ name bench

theorem idAt_eraseIdx {program : Program} {index before : Nat} (h : before < index) :
    Program.idAt ⟨program.actors.eraseIdx index⟩ before = program.idAt before := by
  unfold Program.idAt
  dsimp only
  rw [List.getElem?_eraseIdx_of_lt h]

theorem actorIndex?_pos {program : Program} {actor : ActorId} {index : Nat}
    (hstage : program.stageId ≠ actor) (h : program.actorIndex? actor = some index) :
    0 < index := by
  refine Nat.pos_of_ne_zero fun hzero => hstage ?_
  subst hzero
  obtain ⟨hlength, hid, -⟩ := List.findIdx?_eq_some_iff_getElem.mp h
  unfold Program.stageId Program.idAt
  rw [List.getElem?_eq_getElem hlength]
  exact of_decide_eq_true hid

theorem run_deleteActor (actor : ActorId) (bench : Bench) :
    (deleteActor actor).run bench = bench.settle false (bench.program.deleteActor actor) := by
  unfold deleteActor Program.deleteActor
  rw [run_program_bind]
  by_cases hstage : bench.program.stageId = actor
  · rw [if_pos hstage, if_pos hstage]
    rfl
  · rw [if_neg hstage, if_neg hstage]
    show (requireActorIndex actor >>= _).run bench = _
    unfold requireActorIndex
    rw [run_bind, run_program_bind]
    cases hindex : bench.program.actorIndex? actor with
    | none => rfl
    | some index =>
        -- who stands before the deleted actor is looked up when it is gone
        have hbefore : Program.idAt ⟨bench.program.actors.eraseIdx index⟩ (index - 1) =
            bench.program.idAt (index - 1) :=
          idAt_eraseIdx (Nat.sub_one_lt_of_lt (actorIndex?_pos hstage hindex))
        exact congrArg (fun before => (Except.ok before, _)) hbefore

theorem run_renameActor (actor : ActorId) (name : String) (bench : Bench) :
    (renameActor actor name).run bench = bench.settle false
      ((·, ()) <$> bench.program.renameActor actor name) := by
  unfold renameActor Program.renameActor
  rw [run_requireActor_bind]
  cases hthere : bench.program.actor? actor with
  | none => rfl
  | some found =>
      dsimp only
      rw [run_program_bind]
      rw [run_checkName_bind]
      cases Name.fault? ((bench.program.actors.filter (·.id ≠ actor)).map Actor.name) name <;> rfl

theorem run_reorderActors (order : List ActorId) (bench : Bench) :
    (reorderActors order).run bench = bench.settle false
      ((·, ()) <$> bench.program.reorderActors order) := by
  unfold reorderActors Program.reorderActors
  rw [run_program_bind]
  rw [run_checkOrder_bind]
  cases orderFault? (bench.program.actors.map Actor.id) order with
  | some fault => rfl
  | none =>
      dsimp only
      rw [run_program_bind]
      by_cases hhead : order.head? = some bench.program.stageId
      · rw [if_pos hhead, if_neg (not_not_intro hhead)]
        rfl
      · rw [if_neg hhead, if_pos hhead]
        rfl

theorem run_insertHandler (actor : ActorId) (after : Option Nat) (trigger : Trigger)
    (bench : Bench) :
    (insertHandler actor after trigger).run bench = bench.settle true
      ((·, ⟨bench.supply.fresh⟩) <$>
        bench.program.insertHandler actor after trigger ⟨bench.supply.fresh⟩) := by
  unfold insertHandler Program.insertHandler
  rw [run_requireActor_bind]
  cases bench.program.actor? actor with
  | none => rfl
  | some found =>
      dsimp only
      cases after with
      | none => rfl
      | some index =>
          dsimp only
          by_cases hindex : index < found.handlers.length
          · rw [if_pos hindex, if_pos hindex]
            rfl
          · rw [if_neg hindex, if_neg hindex]
            rfl

theorem run_deleteHandler (actor : ActorId) (handler : HandlerId) (bench : Bench) :
    (deleteHandler actor handler).run bench = bench.settle false
      ((·, ()) <$> bench.program.deleteHandler actor handler) := by
  unfold deleteHandler Program.deleteHandler
  rw [run_requireHandler_bind]
  cases bench.program.missing? actor handler <;> rfl

theorem run_reorderHandlers (actor : ActorId) (order : List HandlerId) (bench : Bench) :
    (reorderHandlers actor order).run bench = bench.settle false
      ((·, ()) <$> bench.program.reorderHandlers actor order) := by
  unfold reorderHandlers Program.reorderHandlers
  rw [run_requireActor_bind]
  cases bench.program.actor? actor with
  | none => rfl
  | some found =>
      dsimp only
      rw [run_checkOrder_bind]
      cases orderFault? (found.handlers.map Handler.id) order <;> rfl

theorem run_setBody (actor : ActorId) (handler : HandlerId) (lines : List String)
    (bench : Bench) :
    (setBody actor handler lines).run bench = bench.settle false
      ((·, ()) <$> bench.program.setBody actor handler lines) := by
  unfold setBody Program.setBody
  rw [run_requireHandler_bind]
  cases bench.program.missing? actor handler with
  | some fault => rfl
  | none =>
      dsimp only
      rw [run_check_bind]
      cases lines.findIdx? Text.hasBreak <;> rfl

theorem run_setBodyText (actor : ActorId) (handler : HandlerId) (text : String)
    (bench : Bench) :
    (setBodyText actor handler text).run bench = bench.settle false
      ((·, ()) <$> bench.program.setBodyText actor handler text) :=
  run_setBody actor handler (Text.lines text) bench

theorem run_setTrigger (actor : ActorId) (handler : HandlerId) (trigger : Trigger)
    (bench : Bench) :
    (setTrigger actor handler trigger).run bench = bench.settle false
      ((·, ()) <$> bench.program.setTrigger actor handler trigger) := by
  unfold setTrigger Program.setTrigger
  rw [run_requireHandler_bind]
  cases bench.program.missing? actor handler <;> rfl

end Editing

/-! ## 4. All edits -/

namespace Edit

variable {edit : Edit} {fresh : Ident} {program changed : Program} {reply : Reply}
  {fault : EditFault} {bench : Bench}

theorem run_settle {α : Type} {work : Editing α} {draws : Bool} (answered : α → Reply)
    {answer : α} {outcome : Except EditFault Program}
    (h : work.run bench = bench.settle draws ((·, answer) <$> outcome)) :
    (answered <$> work).run bench = bench.settle draws ((·, answered answer) <$> outcome) := by
  rw [Editing.run_map, h]
  cases outcome <;> rfl

/-- **To edit in place is to put there what the edit makes of the program.** Where the edit is
    carried out, the bench has the changed program, and an id less if the edit makes something.
    Where it is refused, the bench is as it was, with every id still to be drawn. -/
theorem run_carryOut (edit : Edit) (bench : Bench) :
    edit.carryOut.run bench =
      bench.settle edit.draws (edit.result bench.supply.fresh bench.program) := by
  cases edit with
  | insertActor after name => exact run_settle _ (Editing.run_insertActor after name bench)
  | appendSprite name => exact run_settle _ (Editing.run_appendSprite name bench)
  | deleteActor actor =>
      show (Reply.actor <$> Editing.deleteActor actor).run bench = _
      rw [Editing.run_map, Editing.run_deleteActor]
      dsimp only [result]
      cases bench.program.deleteActor actor <;> rfl
  | renameActor actor name => exact run_settle _ (Editing.run_renameActor actor name bench)
  | reorderActors order => exact run_settle _ (Editing.run_reorderActors order bench)
  | insertHandler actor after trigger =>
      exact run_settle _ (Editing.run_insertHandler actor after trigger bench)
  | deleteHandler actor handler =>
      exact run_settle _ (Editing.run_deleteHandler actor handler bench)
  | reorderHandlers actor order =>
      exact run_settle _ (Editing.run_reorderHandlers actor order bench)
  | setBody actor handler lines =>
      exact run_settle _ (Editing.run_setBody actor handler lines bench)
  | setBodyText actor handler text =>
      exact run_settle _ (Editing.run_setBodyText actor handler text bench)
  | setTrigger actor handler trigger =>
      exact run_settle _ (Editing.run_setTrigger actor handler trigger bench)

/-- **No fault comes after the first change**: where work in place stops with a fault, program and
    supply are as they were. -/
theorem bench_of_fault (h : (edit.carryOut.run bench).1 = .error fault) :
    (edit.carryOut.run bench).2 = bench := by
  rw [run_carryOut] at h ⊢
  cases hresult : edit.result bench.supply.fresh bench.program with
  | error fault => rfl
  | ok made =>
      rw [hresult] at h
      cases h

/-- What an edit does to a program is what it makes of it. -/
theorem apply_eq_result (edit : Edit) (fresh : Ident) (program : Program) :
    edit.apply fresh program = edit.result fresh program := by
  unfold apply
  rw [run_carryOut]
  show _ = edit.result (Supply.only fresh).fresh program
  cases edit.result (Supply.only fresh).fresh program <;> rfl

theorem run_carryOut_of_ok
    (h : edit.apply bench.supply.fresh bench.program = .ok (changed, reply)) :
    edit.carryOut.run bench =
      (.ok reply, ⟨changed, if edit.draws then bench.supply.next else bench.supply⟩) := by
  rw [run_carryOut, ← apply_eq_result, h]
  rfl

theorem run_carryOut_of_error
    (h : edit.apply bench.supply.fresh bench.program = .error fault) :
    edit.carryOut.run bench = (.error fault, bench) := by
  rw [run_carryOut, ← apply_eq_result, h]
  rfl

/-- **The program that an edit leaves**: the changed one if the edit was carried out, and the one
    that was there if it was refused. -/
theorem after_eq (edit : Edit) (fresh : Ident) (program : Program) :
    edit.after fresh program =
      match edit.apply fresh program with
      | .ok (changed, _) => changed
      | .error _ => program := by
  unfold after
  rw [apply_eq_result, run_carryOut]
  show (Bench.settle _ _ (edit.result fresh program)).2.program = _
  cases edit.result fresh program <;> rfl

theorem after_of_ok (h : edit.apply fresh program = .ok (changed, reply)) :
    edit.after fresh program = changed := by
  rw [after_eq, h]

theorem after_of_error (h : edit.apply fresh program = .error fault) :
    edit.after fresh program = program := by
  rw [after_eq, h]

end Edit

end Stagecraft
