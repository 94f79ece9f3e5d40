import Stagecraft.Codec.Ident
import Stagecraft.Flattening
import Stagecraft.Json.Printer
import Stagecraft.Json.Record

/-!
# Flattenings as JSON

How source maps and flattenings are written as values, and read from texts. A map that was read
need not be the map of any program.
-/

namespace Stagecraft.Codec

open Json

/-! ## 1. Source maps -/

/-- An entry of a source map as a value. -/
def ofMapEntry (entry : MapEntry) : Value :=
  .object [("startLine", Value.ofNat entry.startLine), ("actorId", ofActorId entry.actor),
    ("handlerId", ofHandlerId entry.handler)]

/-- What is known of an entry while it is read. -/
structure MapEntryDraft where
  startLine : Option Nat
  actor : Option ActorId
  handler : Option HandlerId

/-- How an entry is read. -/
def mapEntryRecord : Record MapEntryDraft MapEntry where
  title := "struct SourceMapEntry"
  empty := ⟨none, none, none⟩
  slots :=
    [⟨"startLine", (·.startLine.isSome),
      fill scanSize fun draft x => { draft with startLine := some x }⟩,
     ⟨"actorId", (·.actor.isSome), fill scanActorId fun draft x => { draft with actor := some x }⟩,
     ⟨"handlerId", (·.handler.isSome),
      fill scanHandlerId fun draft x => { draft with handler := some x }⟩]
  complete draft := do
    let startLine ← required "startLine" draft.startLine
    let actor ← required "actorId" draft.actor
    let handler ← required "handlerId" draft.handler
    pure ⟨startLine, actor, handler⟩

/-- A source map as a value. -/
def ofSourceMap (map : SourceMap) : Value :=
  .object [("entries", .array (map.entries.map ofMapEntry)),
    ("lineCount", Value.ofNat map.lineCount)]

/-- What is known of a source map while it is read. -/
structure SourceMapDraft where
  entries : Option (List MapEntry)
  lineCount : Option Nat

/-- How a source map is read. -/
def sourceMapRecord : Record SourceMapDraft SourceMap where
  title := "struct SourceMap"
  empty := ⟨none, none⟩
  slots :=
    [⟨"entries", (·.entries.isSome),
      fill (scanList mapEntryRecord.scan) fun draft x => { draft with entries := some x }⟩,
     ⟨"lineCount", (·.lineCount.isSome),
      fill scanSize fun draft x => { draft with lineCount := some x }⟩]
  complete draft := do
    let entries ← required "entries" draft.entries
    let lineCount ← required "lineCount" draft.lineCount
    pure ⟨entries, lineCount⟩

/-- The source map that a text gives. -/
def parseSourceMap (text : String) : Except Fault SourceMap :=
  parse sourceMapRecord.scan text

/-! ## 2. Flattenings -/

/-- A flattening as a value. -/
def ofFlattening (flattening : Flattening) : Value :=
  .object [("text", .string flattening.text), ("sourceMap", ofSourceMap flattening.map)]

/-- What is known of a flattening while it is read. -/
structure FlatteningDraft where
  text : Option String
  map : Option SourceMap

/-- How a flattening is read. -/
def flatteningRecord : Record FlatteningDraft Flattening where
  title := "struct FlattenedProgram"
  empty := ⟨none, none⟩
  slots :=
    [⟨"text", (·.text.isSome), fill scanString fun draft x => { draft with text := some x }⟩,
     ⟨"sourceMap", (·.map.isSome),
      fill sourceMapRecord.scan fun draft x => { draft with map := some x }⟩]
  complete draft := do
    let text ← required "text" draft.text
    let map ← required "sourceMap" draft.map
    pure ⟨text, map⟩

/-- The flattening that a text gives. -/
def parseFlattening (text : String) : Except Fault Flattening :=
  parse flatteningRecord.scan text

/-- A line of a handler as a value. -/
def ofLocated (found : Located) : Value :=
  .object [("actorId", ofActorId found.actor), ("handlerId", ofHandlerId found.handler),
    ("lineWithinHandler", Value.ofNat found.lineWithin)]

end Stagecraft.Codec
