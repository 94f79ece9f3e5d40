import Stagecraft.Ident

/-!
# Programs

A program is a list of actors: the stage first, then the sprites. An actor has handlers; a handler
has a trigger, which says when it starts, and a body of text lines.

The type admits every list of actors. Which lists are programs in the proper sense is said in
`Stagecraft.Program.WellFormed` and decided in `Stagecraft.Program.Defect`; the edits of
`Stagecraft.Program.Edit` lead from one of those to the next.
-/

namespace Stagecraft

/-! ## 1. The tree -/

/-- The stage, or one of the sprites on it. -/
inductive ActorKind where
  | stage
  | sprite
deriving DecidableEq

/-- The event that starts a handler. -/
inductive Trigger where
  | greenFlag
  | keyPressed (key : String)
  | clicked
  | messageReceived (message : String)
  | startAsClone
deriving DecidableEq

/-- A handler: what an actor does on an event. -/
structure Handler where
  id : HandlerId
  trigger : Trigger
  body : List String
deriving DecidableEq

/-- The stage or a sprite, with its handlers. -/
structure Actor where
  id : ActorId
  kind : ActorKind
  name : String
  handlers : List Handler
deriving DecidableEq

/-- The actors in display order. -/
structure Program where
  actors : List Actor
deriving DecidableEq

/-- The event in words. -/
def Trigger.label : Trigger → String
  | greenFlag => "when green flag clicked"
  | keyPressed key => s!"when key \"{key}\" pressed"
  | clicked => "when this actor clicked"
  | messageReceived message => s!"when I receive \"{message}\""
  | startAsClone => "when I start as a clone"

/-- The handler of an actor with the given id. -/
def Actor.handler? (actor : Actor) (id : HandlerId) : Option Handler :=
  actor.handlers.find? (·.id = id)

namespace Program

/-! ## 2. Looking into the tree -/

/-- The id of the actor at an index. Past the end it is the zero word, which no caller looks at. -/
def idAt (program : Program) (index : Nat) : ActorId :=
  (program.actors[index]?.map Actor.id).getD ⟨0⟩

/-- The id of the stage. -/
def stageId (program : Program) : ActorId :=
  program.idAt 0

/-- The actor with the given id. -/
def actor? (program : Program) (id : ActorId) : Option Actor :=
  program.actors.find? (·.id = id)

/-- The index of the actor with the given id. -/
def actorIndex? (program : Program) (id : ActorId) : Option Nat :=
  program.actors.findIdx? (·.id = id)

/-- A handler of the given actor. -/
def handler? (program : Program) (actor : ActorId) (handler : HandlerId) : Option Handler :=
  (program.actor? actor).bind (·.handler? handler)

/-- The names of the actors, in display order. -/
def names (program : Program) : List String :=
  program.actors.map Actor.name

/-- The names of the actors in ascending order. -/
def sortedNames (program : Program) : List String :=
  program.names.mergeSort (fun a b => !(b < a))

/-- Every handler with the id of its actor, in the order of the tree. -/
def sections (program : Program) : List (ActorId × Handler) :=
  program.actors.flatMap fun actor => actor.handlers.map (actor.id, ·)

/-- The number of handlers. -/
def handlerCount (program : Program) : Nat :=
  program.sections.length

end Program

/-! ## 3. Complaints -/

/-- What is reported where something about a program is refused: a stable code for programs to look
    at, and a message for people. -/
structure Complaint where
  code : String
  message : String
deriving DecidableEq

/-- The complaint in one line. -/
def Complaint.display (complaint : Complaint) : String :=
  s!"{complaint.code}: {complaint.message}"

/-- The complaint with words in front of its message, after which a colon follows. -/
def Complaint.about (complaint : Complaint) (subject : String) : Complaint :=
  ⟨complaint.code, s!"{subject}: {complaint.message}"⟩

end Stagecraft
