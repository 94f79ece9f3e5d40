import Stagecraft.Name
import Stagecraft.Program
import Stagecraft.Text.Lines

/-!
# Well-formed programs

The six rules of a program in the proper sense, each said of the tree as a whole. The check that
goes through the tree in order and reports the first defect is in `Stagecraft.Program.Defect`.
-/

namespace Stagecraft

/-- A name that an actor may have: an identifier that is not reserved. -/
def Name.Allowed (name : String) : Prop :=
  Name.isIdentifier name.toList = true ∧ name ∉ Name.reservedWords

namespace Program

/-- The ids of all handlers, over all actors. -/
def handlerIds (program : Program) : List HandlerId :=
  program.actors.flatMap fun actor => actor.handlers.map Handler.id

/-- A program in the proper sense. -/
structure WellFormed (program : Program) : Prop where
  /-- There is a stage, and it is the first actor. -/
  stage_first : program.actors.head?.map Actor.kind = some .stage
  /-- All other actors are sprites. -/
  sprites_after : ∀ actor ∈ program.actors.tail, actor.kind = .sprite
  /-- No two actors have the same id. -/
  actors_distinct : (program.actors.map Actor.id).Nodup
  /-- No two handlers have the same id, whichever actors they belong to. -/
  handlers_distinct : program.handlerIds.Nodup
  /-- Every name is allowed. -/
  names_allowed : ∀ actor ∈ program.actors, Name.Allowed actor.name
  /-- No two actors have the same name. -/
  names_distinct : program.names.Nodup
  /-- No line of a body holds a line break. -/
  lines_unbroken : ∀ actor ∈ program.actors, ∀ handler ∈ actor.handlers,
    ∀ line ∈ handler.body, Text.hasBreak line = false

end Program

end Stagecraft
