import Stagecraft.Program
import Stagecraft.SourceMap

/-!
# Auditing a source map

`Program.audit` checks that a source map, wherever it comes from, is the map of a program: one
entry for each handler in the order of the tree, runs as long as the bodies, no gap and no
overlap. It walks over handlers and entries side by side and keeps the line at which the next run
has to start.
-/

namespace Stagecraft

/-- Why a source map is not the map of a program. -/
inductive MapFault where
  /-- There are more or fewer entries than handlers. -/
  | coverage (expected found : Nat)
  /-- The entry is not that of the handler in its place. -/
  | order (index : Nat) (handler : HandlerId)
  /-- The entry starts at another line than the runs before it demand. -/
  | gap (index start expected : Nat)
  /-- The text has another number of lines than the bodies. -/
  | lineCount (covered found : Nat)
deriving DecidableEq

namespace MapFault

/-- The stable code of a fault. -/
def code : MapFault → String
  | coverage .. => "SOURCE_MAP_COVERAGE"
  | order .. => "SOURCE_MAP_ORDER"
  | gap .. => "SOURCE_MAP_GAP"
  | lineCount .. => "SOURCE_MAP_LINE_COUNT"

/-- The fault in words. -/
def message : MapFault → String
  | coverage expected found => s!"Expected {expected} entries, found {found}."
  | order index handler => s!"Entry {index} does not match handler {handler.text}."
  | gap index start expected => s!"Entry {index} starts at line {start}, expected {expected}."
  | lineCount covered found => s!"Handlers cover {covered} line(s) but the text has {found}."

/-- The fault as a complaint. -/
def complaint (fault : MapFault) : Complaint :=
  ⟨fault.code, fault.message⟩

end MapFault

namespace Program

/-- Checks entries against handlers, from the entry at `index` on, whose run has to start at
    `line`. Yields the line after the last run. -/
def auditEntries : Nat → Nat → List (ActorId × Handler) → List MapEntry → Except MapFault Nat
  | index, line, (actor, handler) :: sections, entry :: entries =>
    if entry.actor ≠ actor ∨ entry.handler ≠ handler.id then .error (.order index handler.id)
    else if entry.startLine ≠ line then .error (.gap index entry.startLine line)
    else auditEntries (index + 1) (line + handler.body.length) sections entries
  | _, line, _, _ => .ok line

/-- Checks that a source map is the map of this program. -/
def audit (program : Program) (map : SourceMap) : Except MapFault Unit :=
  if program.sections.length ≠ map.entries.length then
    .error (.coverage program.sections.length map.entries.length)
  else
    match auditEntries 0 1 program.sections map.entries with
    | .error fault => .error fault
    | .ok line =>
      if line = map.lineCount + 1 then .ok () else .error (.lineCount (line - 1) map.lineCount)

end Program

end Stagecraft
