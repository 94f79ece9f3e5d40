import Stagecraft.Name
import Stagecraft.Program
import Stagecraft.Text.Lines

/-!
# Edits

The operations that change a program. Each one works on the program in place: it checks its
arguments, draws an id if it makes something, and then changes the tree. Where it stops with a
fault, the tree and the ids that are left are as the steps so far have made them.

* `Bench` is what an operation works on, and `Editing` is work on it that may stop with a fault;
* `Editing.insertActor` and the others are the operations;
* `Edit` lists them with their arguments. `Edit.carryOut` does what an edit says on a bench,
  `Edit.apply` does it on a program of its own, and `Edit.after` is the program that is left.
-/

namespace Stagecraft

/-! ## 1. Faults -/

/-- Why a list of ids is no new order. -/
inductive OrderFault where
  | length (expected found : Nat)
  | repeated
  | different
  | stageMoved
deriving DecidableEq

/-- Why an edit is refused. -/
inductive EditFault where
  | badName (name : String) (fault : NameFault)
  | badOrder (fault : OrderFault)
  | unknownActor (actor : ActorId)
  | unknownHandler (actor : ActorId) (handler : HandlerId)
  | stageStays
  | indexOutOfRange (index length : Nat)
  | brokenLine (index : Nat)
deriving DecidableEq

/-- The reason in words. -/
def OrderFault.reason : OrderFault → String
  | length expected found => s!"expected {expected} id(s), got {found}"
  | repeated => "an id appears more than once"
  | different => "the ids differ from the existing ones"
  | stageMoved => "the stage must stay first"

namespace EditFault

/-- The stable code of a fault. -/
def code : EditFault → String
  | badName .. => "PROGRAM_NAME_INVALID"
  | badOrder _ => "PROGRAM_ORDER_MISMATCH"
  | unknownActor _ => "PROGRAM_UNKNOWN_ACTOR"
  | unknownHandler .. => "PROGRAM_UNKNOWN_HANDLER"
  | stageStays => "PROGRAM_CANNOT_DELETE_STAGE"
  | indexOutOfRange .. => "PROGRAM_INDEX_OUT_OF_RANGE"
  | brokenLine _ => "PROGRAM_MULTILINE_BODY_LINE"

/-- The fault in words. -/
def message : EditFault → String
  | badName name fault => s!"Name \"{name}\" is not allowed: {fault.message}"
  | badOrder fault => s!"New order does not match existing order: {fault.reason}"
  | unknownActor actor => s!"No actor with id {actor.text}."
  | unknownHandler actor handler => s!"No handler with id {handler.text} in actor {actor.text}."
  | stageStays => "The stage cannot be deleted."
  | indexOutOfRange index length => s!"Index {index} is out of range for {length} item(s)."
  | brokenLine index => s!"Body line {index} contains a line break."

/-- The fault as a complaint. -/
def complaint (fault : EditFault) : Complaint :=
  ⟨fault.code, fault.message⟩

end EditFault

/-! ## 2. Orders -/

/-- Why `proposed` is no rearrangement of `current`, `none` if it is one. -/
def orderFault? {α : Type} [DecidableEq α] (current proposed : List α) : Option OrderFault :=
  if current.length ≠ proposed.length then some (.length current.length proposed.length)
  else if ¬ proposed.Nodup then some .repeated
  else if (∀ x ∈ proposed, x ∈ current) ∧ (∀ x ∈ current, x ∈ proposed) then none
  else some .different

/-- The items whose keys are in `order`, in that order. -/
def arrange {α κ : Type} [DecidableEq κ] (key : α → κ) (items : List α) (order : List κ) : List α :=
  order.filterMap fun k => items.find? (key · = k)

namespace Program

/-! ## 3. Trees -/

/-- A program with only a stage. -/
def ofStage (name : String) (fresh : ActorId) : Except EditFault Program :=
  match Name.fault? [] name with
  | some fault => .error (.badName name fault)
  | none => .ok ⟨[⟨fresh, .stage, name, []⟩]⟩

/-- Changes one actor. -/
def updateActor (program : Program) (actor : ActorId) (change : Actor → Actor) : Program :=
  ⟨program.actors.map fun a => if a.id = actor then change a else a⟩

/-- Changes the handlers of one actor. -/
def updateHandlers (program : Program) (actor : ActorId) (change : List Handler → List Handler) :
    Program :=
  program.updateActor actor fun a => { a with handlers := change a.handlers }

/-- Changes one handler of one actor. -/
def updateHandler (program : Program) (actor : ActorId) (handler : HandlerId)
    (change : Handler → Handler) : Program :=
  program.updateHandlers actor fun handlers =>
    handlers.map fun h => if h.id = handler then change h else h

end Program

/-! ## 4. Work in place -/

/-- Where ids and serial numbers come from: the ids in order, and how many of each are used up. -/
structure Supply where
  ident : Nat → Ident
  drawn : Nat
  issued : Nat

namespace Supply

/-- A supply that has only one id. -/
def only (fresh : Ident) : Supply := ⟨fun _ => fresh, 0, 0⟩

/-- The id that is drawn next. -/
def fresh (supply : Supply) : Ident :=
  supply.ident supply.drawn

/-- The supply after an id was drawn. -/
def next (supply : Supply) : Supply :=
  { supply with drawn := supply.drawn + 1 }

end Supply

/-- What an operation works on: the program as it is now, and where ids come from. -/
structure Bench where
  program : Program
  supply : Supply

/-- Work on a bench. If it stops with a fault, the bench stays as the work has left it. -/
def Editing (α : Type) : Type :=
  ExceptT EditFault (StateM Bench) α

instance : Monad Editing :=
  inferInstanceAs (Monad (ExceptT EditFault (StateM Bench)))

namespace Editing

/-- Does the work: what it answers, and the bench that it leaves. -/
def run {α : Type} (work : Editing α) (bench : Bench) : Except EditFault α × Bench :=
  StateT.run (ExceptT.run work) bench

/-- The program as it is now. -/
def program : Editing Program :=
  ExceptT.lift (Bench.program <$> get)

/-- Changes the program. -/
def change (step : Program → Program) : Editing Unit :=
  ExceptT.lift (modify fun bench => { bench with program := step bench.program })

/-- Draws an id. -/
def draw : Editing Ident :=
  ExceptT.lift (modifyGet fun bench =>
    (bench.supply.fresh, { bench with supply := bench.supply.next }))

/-- Stops with a fault. -/
def refuse {α : Type} (fault : EditFault) : Editing α :=
  ExceptT.mk (pure (.error fault))

/-- Stops with the fault that a check has found. -/
def check : Option EditFault → Editing Unit
  | some fault => refuse fault
  | none => pure ()

/-- What was looked for; stops with a fault if it was not found. -/
def found {α : Type} (fault : EditFault) : Option α → Editing α
  | some result => pure result
  | none => refuse fault

/-- Checks a name against the names that there are. -/
def checkName (existing : List String) (name : String) : Editing Unit :=
  check ((Name.fault? existing name).map (.badName name))

/-- Checks a new order of ids against the present one. -/
def checkOrder {α : Type} [DecidableEq α] (current proposed : List α) : Editing Unit :=
  check ((orderFault? current proposed).map .badOrder)

/-- The index of an actor that has to be there. -/
def requireActorIndex (actor : ActorId) : Editing Nat := do
  found (.unknownActor actor) ((← program).actorIndex? actor)

/-- An actor that has to be there. -/
def requireActor (actor : ActorId) : Editing Actor := do
  found (.unknownActor actor) ((← program).actor? actor)

/-- A handler that has to be there. -/
def requireHandler (actor : ActorId) (handler : HandlerId) : Editing Handler := do
  found (.unknownHandler actor handler) ((← requireActor actor).handler? handler)

/-- Takes everything out of a list that is changed in place. -/
def takeAll {α : Type} : StateM (List α) (List α) :=
  modifyGet fun items => (items, [])

/-- Works on the actors in place. -/
def inActors (work : StateM (List Actor) Unit) : Editing Unit :=
  change fun tree => ⟨(work.run tree.actors).2⟩

/-- Works on the handlers of an actor in place. -/
def inHandlers (actor : ActorId) (work : StateM (List Handler) Unit) : Editing Unit :=
  change fun tree => tree.updateHandlers actor fun handlers => (work.run handlers).2

/-! ## 5. Actors -/

/-- Puts a new sprite without handlers directly after the actor at index `after`. -/
def insertActor (after : Nat) (name : String) : Editing ActorId := do
  let length := (← program).actors.length
  if length ≤ after then refuse (.indexOutOfRange after length)
  checkName (← program).names name
  let made : ActorId := ⟨← draw⟩
  change fun tree => ⟨tree.actors.insertIdx (after + 1) ⟨made, .sprite, name, []⟩⟩
  return made

/-- Puts a new sprite after all actors. -/
def appendSprite (name : String) : Editing ActorId := do
  insertActor ((← program).actors.length - 1) name

/-- Takes a sprite with its handlers out, and tells which actor stands before where it was. -/
def deleteActor (actor : ActorId) : Editing ActorId := do
  if (← program).stageId = actor then refuse .stageStays
  let index ← requireActorIndex actor
  change fun tree => ⟨tree.actors.eraseIdx index⟩
  return (← program).idAt (index - 1)

/-- Gives an actor a name that no other actor has. -/
def renameActor (actor : ActorId) (name : String) : Editing Unit := do
  let _ ← requireActor actor
  let others := (← program).actors.filter (·.id ≠ actor)
  checkName (others.map Actor.name) name
  change (·.updateActor actor fun a => { a with name := name })

/-- Rearranges the actors. The stage stays first. -/
def reorderActors (order : List ActorId) : Editing Unit := do
  checkOrder ((← program).actors.map Actor.id) order
  if order.head? ≠ some (← program).stageId then refuse (.badOrder .stageMoved)
  inActors do
    let taken ← takeAll
    set (arrange Actor.id taken order)

/-! ## 6. Handlers -/

/-- Puts a new handler with an empty body in front, or directly after the handler at index
    `after`. -/
def insertHandler (actor : ActorId) (after : Option Nat) (trigger : Trigger) :
    Editing HandlerId := do
  let length := (← requireActor actor).handlers.length
  let position ← match after with
    | none => pure 0
    | some index =>
      if index < length then pure (index + 1) else refuse (.indexOutOfRange index length)
  let made : HandlerId := ⟨← draw⟩
  inHandlers actor (modify (·.insertIdx position ⟨made, trigger, []⟩))
  return made

/-- Takes a handler out. -/
def deleteHandler (actor : ActorId) (handler : HandlerId) : Editing Unit := do
  let _ ← requireHandler actor handler
  inHandlers actor (modify (·.eraseP (·.id = handler)))

/-- Rearranges the handlers of an actor. -/
def reorderHandlers (actor : ActorId) (order : List HandlerId) : Editing Unit := do
  checkOrder ((← requireActor actor).handlers.map Handler.id) order
  inHandlers actor do
    let taken ← takeAll
    set (arrange Handler.id taken order)

/-- Replaces the body of a handler. -/
def setBody (actor : ActorId) (handler : HandlerId) (lines : List String) : Editing Unit := do
  let _ ← requireHandler actor handler
  check ((lines.findIdx? Text.hasBreak).map .brokenLine)
  change (·.updateHandler actor handler fun h => { h with body := lines })

/-- Replaces the body of a handler by the lines of a text. -/
def setBodyText (actor : ActorId) (handler : HandlerId) (text : String) : Editing Unit :=
  setBody actor handler (Text.lines text)

/-- Replaces the trigger of a handler. -/
def setTrigger (actor : ActorId) (handler : HandlerId) (trigger : Trigger) : Editing Unit := do
  let _ ← requireHandler actor handler
  change (·.updateHandler actor handler fun h => { h with trigger := trigger })

end Editing

/-! ## 7. Edits as data -/

/-- An operation with its arguments. -/
inductive Edit where
  | insertActor (after : Nat) (name : String)
  | appendSprite (name : String)
  | deleteActor (actor : ActorId)
  | renameActor (actor : ActorId) (name : String)
  | reorderActors (order : List ActorId)
  | insertHandler (actor : ActorId) (after : Option Nat) (trigger : Trigger)
  | deleteHandler (actor : ActorId) (handler : HandlerId)
  | reorderHandlers (actor : ActorId) (order : List HandlerId)
  | setBody (actor : ActorId) (handler : HandlerId) (lines : List String)
  | setBodyText (actor : ActorId) (handler : HandlerId) (text : String)
  | setTrigger (actor : ActorId) (handler : HandlerId) (trigger : Trigger)
deriving DecidableEq

/-- What a successful edit answers: the actor or handler it made, the actor before the deleted
    one, or nothing. -/
inductive Reply where
  | done
  | actor (id : ActorId)
  | handler (id : HandlerId)
deriving DecidableEq

namespace Edit

/-- Whether a successful edit uses up the fresh id. -/
def draws : Edit → Bool
  | insertActor .. | appendSprite _ | insertHandler .. => true
  | _ => false

/-- Does what an edit says. -/
def carryOut : Edit → Editing Reply
  | insertActor after name => .actor <$> Editing.insertActor after name
  | appendSprite name => .actor <$> Editing.appendSprite name
  | deleteActor actor => .actor <$> Editing.deleteActor actor
  | renameActor actor name => (fun _ => .done) <$> Editing.renameActor actor name
  | reorderActors order => (fun _ => .done) <$> Editing.reorderActors order
  | insertHandler actor after trigger =>
    .handler <$> Editing.insertHandler actor after trigger
  | deleteHandler actor handler => (fun _ => .done) <$> Editing.deleteHandler actor handler
  | reorderHandlers actor order => (fun _ => .done) <$> Editing.reorderHandlers actor order
  | setBody actor handler lines => (fun _ => .done) <$> Editing.setBody actor handler lines
  | setBodyText actor handler text => (fun _ => .done) <$> Editing.setBodyText actor handler text
  | setTrigger actor handler trigger =>
    (fun _ => .done) <$> Editing.setTrigger actor handler trigger

/-- Carries out an edit on a program; `fresh` is the id of what it makes. -/
def apply (edit : Edit) (fresh : Ident) (program : Program) :
    Except EditFault (Program × Reply) :=
  let done := edit.carryOut.run ⟨program, .only fresh⟩
  (done.2.program, ·) <$> done.1

/-- The program that an edit leaves, also where it is refused. -/
def after (edit : Edit) (fresh : Ident) (program : Program) : Program :=
  (edit.carryOut.run ⟨program, .only fresh⟩).2.program

end Edit

end Stagecraft
