import Stagecraft.Attribution
import Stagecraft.Codec.Ident
import Stagecraft.Json.Printer
import Stagecraft.Json.Tagged

/-!
# Run results as JSON

How run results are written as values and read from texts, and how attributions are written.
-/

namespace Stagecraft.Codec

open Json

/-! ## 1. Writing -/

/-- A line number, or `null` for none. -/
def ofLine : Option Nat → Value
  | some line => Value.ofNat line
  | none => .null

/-- A run result as a value. -/
def ofRunResult : RunResult → Value
  | .success output => .object [(tagKey, .string "success"), ("output", Value.ofTexts output)]
  | .failed errorLine message output =>
    .object [(tagKey, .string "failed"), ("errorLine", ofLine errorLine),
      ("message", .string message), ("output", Value.ofTexts output)]

/-- An attribution as a value. -/
def ofAttribution : Attribution → Value
  | .located place actorName message =>
    .object [(tagKey, .string "located"), ("actorId", ofActorId place.actor),
      ("actorName", .string actorName), ("handlerId", ofHandlerId place.handler),
      ("lineWithinHandler", Value.ofNat place.lineWithin), ("message", .string message)]
  | .unattributable message =>
    .object [(tagKey, .string "unattributable"), ("message", .string message)]

/-! ## 2. Reading -/

/-- The tags of run results. -/
def runResultTags : List String := ["success", "failed"]

/-- What a run result is called in messages. -/
def runResultTitle : String := "internally tagged enum RunResult"

/-- What a successful run's content has to be. -/
def successVariant : Variant (Option (List String)) RunResult where
  title := "struct variant RunResult::Success"
  empty := none
  parts := [⟨"output", Option.isSome, fun _ value => some <$> value.toTexts⟩]
  complete draft := RunResult.success <$> required "output" draft

/-- What is known of a failed run while it is read. -/
structure FailedDraft where
  errorLine : Option (Option Nat)
  message : Option String
  output : Option (List String)

/-- What a failed run's content has to be. The line may be left out. -/
def failedVariant : Variant FailedDraft RunResult where
  title := "struct variant RunResult::Failed"
  empty := ⟨none, none, none⟩
  parts :=
    [⟨"errorLine", (·.errorLine.isSome), fun draft value =>
      (fun x => { draft with errorLine := some x }) <$> value.toOptionalSize⟩,
     ⟨"message", (·.message.isSome), fun draft value =>
      (fun x => { draft with message := some x }) <$> value.toText⟩,
     ⟨"output", (·.output.isSome), fun draft value =>
      (fun x => { draft with output := some x }) <$> value.toTexts⟩]
  complete draft := do
    let message ← required "message" draft.message
    let output ← required "output" draft.output
    pure (.failed (draft.errorLine.getD none) message output)

/-- The run result that a tagged value gives. -/
def runResultOfTagged (tagged : Tagged) : Except Cause RunResult :=
  match tagged.tag with
  | "success" => successVariant.ofContent tagged.content
  | "failed" => failedVariant.ofContent tagged.content
  | other => .error (.unknownVariant other runResultTags)

/-- Reads a run result. -/
def scanRunResult (room : Nat) : Scan RunResult :=
  scanVariants runResultTitle runResultTags runResultOfTagged room

/-- The run result that a text gives. -/
def parseRunResult (text : String) : Except Fault RunResult :=
  parse scanRunResult text

/-- The run result that a value gives. -/
def runResultOfValue (value : Value) : Except Cause RunResult :=
  (Tagged.ofValue runResultTitle runResultTags value).bind runResultOfTagged

end Stagecraft.Codec
