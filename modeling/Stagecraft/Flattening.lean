import Stagecraft.Program
import Stagecraft.SourceMap
import Stagecraft.Text.Lines

/-!
# Flattening

To run, a program becomes one text: the bodies of all handlers, in the order of the tree, one line
of a body on one line of the text. The flattening keeps the source map that leads back. Every
handler has one entry in it, one with an empty body too.
-/

namespace Stagecraft

/-- A program as one text, with the map back to its handlers. -/
structure Flattening where
  text : String
  map : SourceMap
deriving DecidableEq

namespace Program

/-- The lines of all bodies. -/
def bodyLines (program : Program) : List String :=
  program.sections.flatMap fun (_, handler) => handler.body

/-- The entries of handlers whose first run starts at `line`. -/
def entriesFrom : Nat → List (ActorId × Handler) → List MapEntry
  | _, [] => []
  | line, (actor, handler) :: sections =>
    ⟨line, actor, handler.id⟩ :: entriesFrom (line + handler.body.length) sections

/-- The map from lines back to handlers. -/
def sourceMap (program : Program) : SourceMap :=
  ⟨entriesFrom 1 program.sections, program.bodyLines.length⟩

/-- The program as one text with its map. -/
def flatten (program : Program) : Flattening :=
  ⟨Text.joinLines program.bodyLines, program.sourceMap⟩

end Program

end Stagecraft
