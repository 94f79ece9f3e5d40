import Stagecraft.Name
import Stagecraft.Program
import Stagecraft.Text.Lines

/-!
# Defects of a tree

`Program.validate` goes through the actors in order, and through the handlers of each, and reports
the first defect. It guards trees that come from outside: those that the edits make have none.

Of an actor it checks that it is no second stage, then that its id is new, then its name, then its
handlers one after the other: the id first, then the lines of the body.
-/

namespace Stagecraft

/-- Why a tree is no program. -/
inductive Defect where
  | noActors
  | stageNotFirst
  | secondStage (index : Nat)
  | repeatedActor (id : ActorId)
  | badName (name : String) (fault : NameFault)
  | repeatedHandler (id : HandlerId)
  | brokenLine (handler : HandlerId) (line : Nat)
deriving DecidableEq

namespace Defect

/-- The reason in words. -/
def reason : Defect → String
  | noActors => "program has no actors"
  | stageNotFirst => "first actor is not the stage"
  | secondStage index => s!"actor {index} is a second stage"
  | repeatedActor id => s!"duplicate actor id {id.text}"
  | badName name fault => s!"actor name \"{name}\" is invalid: {fault.message}"
  | repeatedHandler id => s!"duplicate handler id {id.text}"
  | brokenLine handler line => s!"handler {handler.text} body line {line} contains a line break"

/-- The defect in words. -/
def message (defect : Defect) : String :=
  s!"Malformed program: {defect.reason}"

/-- The defect as a complaint. -/
def complaint (defect : Defect) : Complaint :=
  ⟨"PROGRAM_MALFORMED", defect.message⟩

end Defect

/-- What has been met on the way through a tree. -/
structure Seen where
  actors : List ActorId
  handlers : List HandlerId
  names : List String

namespace Seen

/-- Nothing met yet. -/
def nothing : Seen := ⟨[], [], []⟩

/-- The index of the first line that holds a line break. -/
def brokenLine? (lines : List String) : Option Nat :=
  lines.findIdx? Text.hasBreak

/-- Checks a handler and counts it as met. -/
def addHandler (seen : Seen) (handler : Handler) : Except Defect Seen :=
  if handler.id ∈ seen.handlers then .error (.repeatedHandler handler.id)
  else
    match brokenLine? handler.body with
    | some line => .error (.brokenLine handler.id line)
    | none => .ok { seen with handlers := handler.id :: seen.handlers }

/-- Checks handlers in their order. -/
def addHandlers : Seen → List Handler → Except Defect Seen
  | seen, [] => .ok seen
  | seen, handler :: handlers =>
    match seen.addHandler handler with
    | .error defect => .error defect
    | .ok seen => addHandlers seen handlers

/-- Checks an actor at the given index, with its handlers, and counts them as met. -/
def addActor (seen : Seen) (index : Nat) (actor : Actor) : Except Defect Seen :=
  if 0 < index ∧ actor.kind = .stage then .error (.secondStage index)
  else if actor.id ∈ seen.actors then .error (.repeatedActor actor.id)
  else
    match Name.fault? seen.names actor.name with
    | some fault => .error (.badName actor.name fault)
    | none =>
      addHandlers ⟨actor.id :: seen.actors, seen.handlers, actor.name :: seen.names⟩ actor.handlers

/-- Checks actors in their order, the first one at the given index. -/
def addActors : Seen → Nat → List Actor → Except Defect Seen
  | seen, _, [] => .ok seen
  | seen, index, actor :: actors =>
    match seen.addActor index actor with
    | .error defect => .error defect
    | .ok seen => addActors seen (index + 1) actors

end Seen

namespace Program

/-- The first defect of a tree, `none` if it is a program. -/
def defect? (program : Program) : Option Defect :=
  match program.actors with
  | [] => some .noActors
  | first :: others =>
    if first.kind = .stage then
      match Seen.nothing.addActors 0 (first :: others) with
      | .error defect => some defect
      | .ok _ => none
    else some .stageNotFirst

/-- Checks every rule of a program. -/
def validate (program : Program) : Except Defect Unit :=
  match program.defect? with
  | some defect => .error defect
  | none => .ok ()

end Program

end Stagecraft
