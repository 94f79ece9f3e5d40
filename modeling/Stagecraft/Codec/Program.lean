import Stagecraft.Codec.Ident
import Stagecraft.Json.Printer
import Stagecraft.Json.Tagged
import Stagecraft.Program.Defect

/-!
# Programs as JSON

How triggers, handlers, actors and programs are written as values, and read from texts. A tree that
was read is validated before it counts as a program.
-/

namespace Stagecraft.Codec

open Json

/-! ## 1. Triggers -/

/-- The tags of triggers. -/
def triggerTags : List String :=
  ["greenFlag", "keyPressed", "clicked", "messageReceived", "startAsClone"]

/-- What a trigger is called in messages. -/
def triggerTitle : String := "internally tagged enum EventTrigger"

/-- A trigger as a value. -/
def ofTrigger : Trigger → Value
  | .greenFlag => .object [(tagKey, .string "greenFlag")]
  | .keyPressed key => .object [(tagKey, .string "keyPressed"), ("key", .string key)]
  | .clicked => .object [(tagKey, .string "clicked")]
  | .messageReceived message =>
    .object [(tagKey, .string "messageReceived"), ("message", .string message)]
  | .startAsClone => .object [(tagKey, .string "startAsClone")]

/-- A variant with one text as its field. -/
def textVariant {α : Type} (title key : String) (make : String → α) :
    Variant (Option String) α where
  title := title
  empty := none
  parts := [⟨key, Option.isSome, fun _ value => some <$> value.toText⟩]
  complete draft := make <$> required key draft

/-- The trigger that a tagged value gives. -/
def triggerOfTagged (tagged : Tagged) : Except Cause Trigger :=
  match tagged.tag with
  | "greenFlag" => unitOfContent .greenFlag tagged.content
  | "keyPressed" =>
    (textVariant "struct variant EventTrigger::KeyPressed" "key" Trigger.keyPressed).ofContent
      tagged.content
  | "clicked" => unitOfContent .clicked tagged.content
  | "messageReceived" =>
    (textVariant "struct variant EventTrigger::MessageReceived" "message"
      Trigger.messageReceived).ofContent tagged.content
  | "startAsClone" => unitOfContent .startAsClone tagged.content
  | other => .error (.unknownVariant other triggerTags)

/-- Reads a trigger. -/
def scanTrigger (room : Nat) : Scan Trigger :=
  scanVariants triggerTitle triggerTags triggerOfTagged room

/-- The trigger that a value gives. -/
def triggerOfValue (value : Value) : Except Cause Trigger :=
  (Tagged.ofValue triggerTitle triggerTags value).bind triggerOfTagged

/-! ## 2. Handlers -/

/-- A handler as a value. -/
def ofHandler (handler : Handler) : Value :=
  .object [("id", ofHandlerId handler.id), ("trigger", ofTrigger handler.trigger),
    ("body", Value.ofTexts handler.body)]

/-- What is known of a handler while it is read. -/
structure HandlerDraft where
  id : Option HandlerId
  trigger : Option Trigger
  body : Option (List String)

/-- How a handler is read. -/
def handlerRecord : Record HandlerDraft Handler where
  title := "struct Handler"
  empty := ⟨none, none, none⟩
  slots :=
    [⟨"id", (·.id.isSome), fill scanHandlerId fun draft x => { draft with id := some x }⟩,
     ⟨"trigger", (·.trigger.isSome),
      fill scanTrigger fun draft x => { draft with trigger := some x }⟩,
     ⟨"body", (·.body.isSome),
      fill (scanList scanString) fun draft x => { draft with body := some x }⟩]
  complete draft := do
    let id ← required "id" draft.id
    let trigger ← required "trigger" draft.trigger
    let body ← required "body" draft.body
    pure ⟨id, trigger, body⟩

/-! ## 3. Actors -/

/-- The two kinds of actors. -/
def kindNames : List String := ["stage", "sprite"]

/-- The name of a kind. -/
def kindName : ActorKind → String
  | .stage => "stage"
  | .sprite => "sprite"

/-- Reads the kind of an actor. -/
def scanKind (room : Nat) : Scan ActorKind := fun s =>
  Read.map (fun name => if name = "stage" then .stage else .sprite) (scanChoice kindNames room s)

/-- An actor as a value. -/
def ofActor (actor : Actor) : Value :=
  .object [("id", ofActorId actor.id), ("kind", .string (kindName actor.kind)),
    ("name", .string actor.name), ("handlers", .array (actor.handlers.map ofHandler))]

/-- What is known of an actor while it is read. -/
structure ActorDraft where
  id : Option ActorId
  kind : Option ActorKind
  name : Option String
  handlers : Option (List Handler)

/-- How an actor is read. -/
def actorRecord : Record ActorDraft Actor where
  title := "struct Actor"
  empty := ⟨none, none, none, none⟩
  slots :=
    [⟨"id", (·.id.isSome), fill scanActorId fun draft x => { draft with id := some x }⟩,
     ⟨"kind", (·.kind.isSome), fill scanKind fun draft x => { draft with kind := some x }⟩,
     ⟨"name", (·.name.isSome), fill scanString fun draft x => { draft with name := some x }⟩,
     ⟨"handlers", (·.handlers.isSome),
      fill (scanList handlerRecord.scan) fun draft x => { draft with handlers := some x }⟩]
  complete draft := do
    let id ← required "id" draft.id
    let kind ← required "kind" draft.kind
    let name ← required "name" draft.name
    let handlers ← required "handlers" draft.handlers
    pure ⟨id, kind, name, handlers⟩

/-! ## 4. Programs -/

/-- A program as a value. -/
def ofProgram (program : Program) : Value :=
  .object [("actors", .array (program.actors.map ofActor))]

/-- How a tree is read. -/
def treeRecord : Record (Option (List Actor)) Program where
  title := "struct RawStructuredProgram"
  empty := none
  slots := [⟨"actors", Option.isSome, fill (scanList actorRecord.scan) fun _ x => some x⟩]
  complete draft := Program.mk <$> required "actors" draft

/-- Reads a program. -/
def scanProgram (room : Nat) (s : List Char) : Read Program :=
  match treeRecord.scan room s with
  | .error fault => .error fault
  | .ok (program, s) =>
    match program.validate with
    | .error defect => .error (Fault.loose (.refused defect.message) s)
    | .ok () => .ok (program, s)

/-- The program that a text gives. -/
def parseProgram (text : String) : Except Fault Program :=
  parse scanProgram text

/-- A program as text in one line. -/
def programText (program : Program) : String :=
  (ofProgram program).text .compact

end Stagecraft.Codec
