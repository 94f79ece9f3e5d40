import Stagecraft.Flattening

/-!
# Runs and where they fail

A host takes a text and answers with a `RunResult`. Where a failed run names a line,
`Program.attribution?` leads it back, by the map of the text that ran, to an actor, a handler and a
line of its body. The current program only lends the actor's name.
-/

namespace Stagecraft

/-- What became of a run, with the lines it printed. -/
inductive RunResult where
  | success (output : List String)
  /-- `errorLine` is absent where the host could not place the error. -/
  | failed (errorLine : Option Nat) (message : String) (output : List String)
deriving DecidableEq

/-- Runs a text. -/
abbrev Host := String → RunResult

/-- Where a failed run is to be shown. -/
inductive Attribution where
  | located (place : Located) (actorName : String) (message : String)
  /-- The error does not come from a line of a handler. -/
  | unattributable (message : String)
deriving DecidableEq

namespace RunResult

/-- The lines that were printed. -/
def output : RunResult → List String
  | success output => output
  | failed _ _ output => output

/-- Whether the run came to its end. -/
def isSuccess : RunResult → Bool
  | success _ => true
  | failed .. => false

end RunResult

namespace Program

/-- The name of an actor, empty if there is no such actor. -/
def nameOf (program : Program) (actor : ActorId) : String :=
  ((program.actor? actor).map Actor.name).getD ""

/-- Leads a failed run of `ran` back to a handler. -/
def attribution? (program : Program) (ran : Flattening) : RunResult → Option Attribution
  | .success _ => none
  | .failed errorLine message _ =>
    match errorLine.bind ran.map.locate with
    | some found => some (.located found (program.nameOf found.actor) message)
    | none => some (.unattributable message)

end Program

end Stagecraft
