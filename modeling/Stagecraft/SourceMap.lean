import Stagecraft.Ident

/-!
# Source maps

A source map says which lines of a flattened text belong to which handler: for every handler, in
the order of the text, the line at which its run starts. A run ends where the next one starts, the
last one with the text. Lines count from one. A handler without lines has an empty run.

* `bisect` searches by halves;
* `lineRange?` is the run of an entry;
* `locate` finds the handler of a line, and the line's number within it. Among entries that start
  at the same line, all but the last have empty runs, so the last one is meant.
-/

namespace Stagecraft

/-- Where the run of a handler starts. -/
structure MapEntry where
  startLine : Nat
  actor : ActorId
  handler : HandlerId
deriving DecidableEq

/-- The starts of all runs, and the number of lines of the text. -/
structure SourceMap where
  entries : List MapEntry
  lineCount : Nat
deriving DecidableEq

/-- A line as a line of a handler. -/
structure Located where
  actor : ActorId
  handler : HandlerId
  lineWithin : Nat
deriving DecidableEq

/-- The first number of the half-open interval from `low` to `high` at which `p` fails, where `p`
    holds up to some number and fails from there on; `high`, if `p` holds throughout. It looks at
    the middle and goes on in one half. -/
def bisect (p : Nat → Bool) (low high : Nat) : Nat :=
  if low < high then
    if p (low + (high - low) / 2) then bisect p (low + (high - low) / 2 + 1) high
    else bisect p low (low + (high - low) / 2)
  else low
termination_by high - low

namespace SourceMap

/-- The first line of an entry's run, and the line after its last. -/
def lineRange? (map : SourceMap) (index : Nat) : Option (Nat × Nat) :=
  match map.entries[index]? with
  | none => none
  | some entry =>
    match map.entries[index + 1]? with
    | some next => some (entry.startLine, next.startLine)
    | none => some (entry.startLine, map.lineCount + 1)

/-- Whether the entry at an index starts at `line` or before. -/
def startsBy (map : SourceMap) (line index : Nat) : Bool :=
  match map.entries[index]? with
  | some entry => entry.startLine ≤ line
  | none => false

/-- The last entry that starts at `line` or before. -/
def entryBy? (map : SourceMap) (line : Nat) : Option MapEntry :=
  match bisect (map.startsBy line) 0 map.entries.length with
  | 0 => none
  | after + 1 => map.entries[after]?

/-- The handler of a line. A line that is not in the text, or before the first run, has none. -/
def locate (map : SourceMap) (line : Nat) : Option Located :=
  if line = 0 ∨ map.lineCount < line then none
  else (map.entryBy? line).map fun entry =>
    ⟨entry.actor, entry.handler, line - entry.startLine + 1⟩

/-- The line at which the run of a handler starts. -/
def startLine? (map : SourceMap) (handler : HandlerId) : Option Nat :=
  (map.entries.find? (·.handler = handler)).map MapEntry.startLine

end SourceMap

end Stagecraft
