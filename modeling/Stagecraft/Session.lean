import Stagecraft.Attribution
import Stagecraft.Program.Edit

/-!
# Editing sessions

A session holds the program that is edited, the actor in focus, and the flattening of the program
while it is known.

* An edit works on the program in place. If it succeeds, the flattening is dropped.
* `Session.flattened` makes the flattening when it is asked for. What it hands out is a snapshot
  with a serial number, so that two snapshots can be told apart even if their texts agree.
* `Session.run` runs the flattening on a host; a failure that is led back to an actor moves the
  focus there.
* Deleting the actor in focus moves the focus to the actor before it.

Ids and serial numbers come from a `Supply`. `Call` lists what can be asked of a session, and
`Session.perform` does it.
-/

namespace Stagecraft

/-! ## 1. Snapshots -/

/-- A flattening that was handed out. -/
structure Snapshot where
  serial : Nat
  flattening : Flattening
deriving DecidableEq

/-- What a run reports: the snapshot that ran, what became of it, and where it failed. -/
structure RunReport where
  snapshot : Snapshot
  result : RunResult
  attribution : Option Attribution
deriving DecidableEq

/-! ## 2. Sessions -/

/-- A program that is edited. -/
structure Session where
  program : Program
  focus : ActorId
  cached : Option Snapshot
deriving DecidableEq

/-- The name of the stage of a new program, if none is given. -/
def defaultStageName : String := "Stage"

namespace Session

/-- A session on a program, with the stage in focus. -/
def ofProgram (program : Program) : Session :=
  ⟨program, program.stageId, none⟩

/-- A session on a new program with only a stage. -/
def new (stageName : Option String) (fresh : ActorId) : Except EditFault Session :=
  ofProgram <$> Program.ofStage (stageName.getD defaultStageName) fresh

/-- Moves the focus, to any actor. -/
def setFocus (session : Session) (actor : ActorId) : Session :=
  { session with focus := actor }

/-- Whether the flattening is known. -/
def isCached (session : Session) : Bool :=
  session.cached.isSome

/-- What is wrong with a name for a new actor. -/
def nameFault? (session : Session) (name : String) : Option NameFault :=
  Name.fault? session.program.names name

/-- The focus after an edit that was carried out: where the actor in focus was deleted, it moves
    to the actor that the edit names. -/
def focusAfter (session : Session) : Edit → Reply → ActorId
  | .deleteActor actor, .actor before => if session.focus = actor then before else session.focus
  | _, _ => session.focus

/-- Works on the program in place. The program stays as the work leaves it, whether it succeeds or
    stops with a fault; only where it succeeds is the flattening dropped. -/
def edit {α : Type} (session : Session) (work : Editing α) (supply : Supply) :
    Except EditFault α × Session × Supply :=
  let (outcome, bench) := work.run ⟨session.program, supply⟩
  let session := { session with program := bench.program }
  match outcome with
  | .ok answer => (.ok answer, { session with cached := none }, bench.supply)
  | .error fault => (.error fault, session, bench.supply)

/-- Carries out an edit, and moves the focus where the edit says so. -/
def carryOut (session : Session) (edit : Edit) (supply : Supply) :
    Except EditFault Reply × Session × Supply :=
  match session.edit edit.carryOut supply with
  | (.ok reply, session, supply) =>
    (.ok reply, session.setFocus (session.focusAfter edit reply), supply)
  | (.error fault, session, supply) => (.error fault, session, supply)

/-- Deletes the actor in focus, which the caller has to name, and moves the focus to the actor
    before it; nothing is done, and `none` answered, if the caller names another. -/
def deleteFocused (session : Session) (claimed : ActorId) (supply : Supply) :
    Option (Except EditFault ActorId) × Session × Supply :=
  if claimed = session.focus then
    let (outcome, bench) := (Editing.deleteActor claimed).run ⟨session.program, supply⟩
    let session := { session with program := bench.program }
    match outcome with
    | .ok before =>
      (some (.ok before), { session with focus := before, cached := none }, bench.supply)
    | .error fault => (some (.error fault), session, bench.supply)
  else (none, session, supply)

/-- The flattening of the program, made if it is not known. -/
def flattened (session : Session) (supply : Supply) : Snapshot × Session × Supply :=
  match session.cached with
  | some snapshot => (snapshot, session, supply)
  | none =>
    let snapshot : Snapshot := ⟨supply.issued, session.program.flatten⟩
    (snapshot, { session with cached := some snapshot },
      { supply with issued := supply.issued + 1 })

/-- The focus after a run. -/
def focusAfterRun (session : Session) : Option Attribution → ActorId
  | some (.located found _ _) => found.actor
  | _ => session.focus

/-- Runs the program. -/
def run (session : Session) (host : Host) (supply : Supply) : RunReport × Session × Supply :=
  let (snapshot, session, supply) := session.flattened supply
  let result := host snapshot.flattening.text
  let attribution := session.program.attribution? snapshot.flattening result
  (⟨snapshot, result, attribution⟩, session.setFocus (session.focusAfterRun attribution), supply)

end Session

/-! ## 3. Calls as data -/

/-- What can be asked of a session. -/
inductive Call where
  | edit (edit : Edit)
  | deleteFocused (claimed : ActorId)
  | setFocus (actor : ActorId)
  | flattened
  | run (host : Host)

/-- What a session answers. -/
inductive Answer where
  | replied (outcome : Except EditFault Reply)
  /-- The caller takes another actor to be in focus than the session: a fault of the caller. -/
  | focusMismatch (claimed focused : ActorId)
  | focused
  | snapshot (snapshot : Snapshot)
  | report (report : RunReport)

/-- The words of a focus mismatch. -/
def focusMismatchMessage (claimed focused : ActorId) : String :=
  s!"focus mismatch: trying to delete actor {claimed.text} but actor {focused.text} is focused"

/-- Does what is asked. -/
def Session.perform (session : Session) (call : Call) (supply : Supply) :
    Answer × Session × Supply :=
  match call with
  | .edit edit =>
    let (outcome, session, supply) := session.carryOut edit supply
    (.replied outcome, session, supply)
  | .deleteFocused claimed =>
    match session.deleteFocused claimed supply with
    | (some outcome, session, supply) => (.replied (.actor <$> outcome), session, supply)
    | (none, session, supply) => (.focusMismatch claimed session.focus, session, supply)
  | .setFocus actor => (.focused, session.setFocus actor, supply)
  | .flattened =>
    let (snapshot, session, supply) := session.flattened supply
    (.snapshot snapshot, session, supply)
  | .run host =>
    let (report, session, supply) := session.run host supply
    (.report report, session, supply)

end Stagecraft
