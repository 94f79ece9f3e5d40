import Stagecraft.Proofs.Json.Record
import Stagecraft.Proofs.Program.Validation
import Stagecraft.Shell.Report

/-!
# Programs are saved and loaded without loss

What was written of a program is read as that program, and only programs in the proper sense are
read from any text.

* one lemma for each part of a program says that it is read back from its value, from the triggers
  up to `Codec.reads_programFile`;
* `Codec.validate_of_parseProgram` and `Shell.validate_of_loadProgram`: what was read has passed the
  check;
* `Shell.saved_program_loads` is about both.

The brackets of a program file are nested seven deep, far less than may be open at once.
-/

namespace Stagecraft.Codec

open Json

variable {room : Nat}

/-! ## 1. The parts of a program -/

theorem reads_ident (x : Ident) : Reads scanIdent (.string x.text) x where
  begins := begins_string x.text
  scans layout depth _ _ hblanks hrest := by
    rw [scanIdent, (reads_text identTitle x.text).scans layout depth hblanks hrest]
    dsimp only
    rw [Ident.read_text]

theorem reads_actorId (id : ActorId) : Reads (scanActorId room) (ofActorId id) id :=
  (reads_ident id.ident).map ActorId.mk

theorem reads_handlerId (id : HandlerId) : Reads (scanHandlerId room) (ofHandlerId id) id :=
  (reads_ident id.ident).map HandlerId.mk

theorem reads_scanString (text : String) : Reads (scanString room) (.string text) text :=
  reads_text "a string" text

theorem reads_texts (texts : List String) :
    Reads (scanList scanString (room + 1)) (Value.ofTexts texts) texts :=
  reads_list fun text _ => reads_scanString text

/-- A trigger without fields is its tag, and one with a text has it beside the tag. -/
theorem reads_trigger (trigger : Trigger) :
    Reads (scanTrigger (room + 1)) (ofTrigger trigger) trigger := by
  have halone : ∀ field ∈ ([] : List (String × Value)),
      field.1 ≠ tagKey ∧ Reads (scanValue room) field.2 field.2 :=
    fun _ h => absurd h List.not_mem_nil
  have hbeside : ∀ key text : String, key ≠ tagKey → ∀ field ∈ [(key, Value.string text)],
      field.1 ≠ tagKey ∧ Reads (scanValue room) field.2 field.2 := by
    intro key text hkey field hfield
    obtain rfl := List.mem_singleton.mp hfield
    exact ⟨hkey, reads_string room text⟩
  cases trigger with
  | greenFlag => exact reads_variant rfl halone rfl
  | keyPressed key => exact reads_variant rfl (hbeside "key" key (by decide)) rfl
  | clicked => exact reads_variant rfl halone rfl
  | messageReceived message => exact reads_variant rfl (hbeside "message" message (by decide)) rfl
  | startAsClone => exact reads_variant rfl halone rfl

theorem reads_handler (handler : Handler) :
    Reads (handlerRecord.scan (room + 2)) (ofHandler handler) handler := by
  refine Record.reads (.field (Record.stepReads_slot rfl rfl rfl (reads_handlerId handler.id)) <|
    .field (Record.stepReads_slot rfl rfl rfl (reads_trigger handler.trigger)) <|
    .field (Record.stepReads_slot rfl rfl rfl (reads_texts handler.body)) <| .done _) ?_
  rfl

theorem reads_kind (kind : ActorKind) : Reads (scanKind room) (.string (kindName kind)) kind := by
  have hname : kindNames.contains (kindName kind) = true := by cases kind <;> rfl
  have hread : Reads (scanChoice kindNames room) (.string (kindName kind)) (kindName kind) :=
    reads_choice hname
  have hkind := hread.map fun name => if name = "stage" then ActorKind.stage else .sprite
  cases kind <;> exact hkind

theorem reads_actor (actor : Actor) :
    Reads (actorRecord.scan (room + 4)) (ofActor actor) actor := by
  have hhandlers : Reads (scanList handlerRecord.scan (room + 3))
      (.array (actor.handlers.map ofHandler)) actor.handlers :=
    reads_list fun handler _ => reads_handler handler
  refine Record.reads (.field (Record.stepReads_slot rfl rfl rfl (reads_actorId actor.id)) <|
    .field (Record.stepReads_slot rfl rfl rfl (reads_kind actor.kind)) <|
    .field (Record.stepReads_slot rfl rfl rfl (reads_scanString actor.name)) <|
    .field (Record.stepReads_slot rfl rfl rfl hhandlers) <| .done _) ?_
  rfl

/-! ## 2. Programs and their files -/

variable {program : Program}

/-- A tree is read back, whether it is a program or not. -/
theorem reads_tree (program : Program) :
    Reads (treeRecord.scan (room + 6)) (ofProgram program) program := by
  have hactors : Reads (scanList actorRecord.scan (room + 5))
      (.array (program.actors.map ofActor)) program.actors :=
    reads_list fun actor _ => reads_actor actor
  refine Record.reads (.field (Record.stepReads_slot rfl rfl rfl hactors) <| .done _) ?_
  rfl

/-- **A program is read back** if it passes the check. -/
theorem reads_program (h : program.validate = .ok ()) :
    Reads (scanProgram (room + 6)) (ofProgram program) program where
  begins := begins_object _
  scans layout depth _ _ hblanks hrest := by
    rw [scanProgram, (reads_tree program).scans layout depth hblanks hrest]
    dsimp only
    rw [h]

theorem reads_programFile {file : ProgramFile} (h : file.program.validate = .ok ()) :
    Reads (programFileRecord.scan (room + 7)) (ofProgramFile file) file := by
  refine Record.reads (.field (Record.stepReads_slot rfl rfl rfl (reads_scanString file.schema)) <|
    .field (Record.stepReads_slot rfl rfl rfl (reads_program h)) <| .done _) ?_
  rfl

theorem parseProgram_text (h : program.validate = .ok ()) (layout : Layout) :
    parseProgram ((ofProgram program).text layout) = .ok program := by
  have hread : Reads (scanProgram (121 + 6)) (ofProgram program) program := reads_program h
  exact parse_text_of_reads hread layout

theorem parseProgramFile_text (h : program.validate = .ok ()) :
    parseProgramFile (programFileText program) = .ok ⟨ProgramFile.currentSchema, program⟩ := by
  have hread : Reads (programFileRecord.scan (120 + 7))
      (ofProgramFile ⟨ProgramFile.currentSchema, program⟩) ⟨ProgramFile.currentSchema, program⟩ :=
    reads_programFile h
  exact parse_text_of_reads hread .indented

/-! ## 3. What was read has passed the check -/

theorem validate_of_scanProgram {s rest : List Char}
    (h : scanProgram room s = .ok (program, rest)) : program.validate = .ok () := by
  unfold scanProgram at h
  split at h
  · cases h
  next tree s' _ =>
    split at h
    · cases h
    next hvalid =>
      cases h
      exact hvalid

theorem exists_of_parse {α : Type} {read : Nat → Scan α} {text : String} {x : α}
    (h : parse read text = .ok x) : ∃ rest, read roomAtStart text.toList = .ok (x, rest) := by
  unfold parse endOfText at h
  split at h
  · cases h
  next y s hread =>
    split at h
    · cases h
      exact ⟨s, hread⟩
    · cases h

/-- **A program that was read has passed the check.** -/
theorem validate_of_parseProgram {text : String} (h : parseProgram text = .ok program) :
    program.validate = .ok () := by
  obtain ⟨rest, hread⟩ := exists_of_parse h
  exact validate_of_scanProgram hread

/-- The program of a draft of a file, if it is there, has passed the check. -/
def ProgramFileDraft.Checked (draft : ProgramFileDraft) : Prop :=
  ∀ program ∈ draft.program, program.validate = .ok ()

theorem validate_of_parseProgramFile {text : String} {file : ProgramFile}
    (h : parseProgramFile text = .ok file) : file.program.validate = .ok () := by
  obtain ⟨rest, hread⟩ := exists_of_parse h
  have hslots : ∀ slot ∈ programFileRecord.slots, slot.Keeps ProgramFileDraft.Checked := by
    refine List.forall_mem_cons.mpr ⟨?_, List.forall_mem_singleton.mpr ?_⟩
    · exact Slot.keeps_of_fill rfl fun _ _ _ _ _ hdraft _ => hdraft
    · refine Slot.keeps_of_fill rfl fun _ _ _ program _ _ hread other hother => ?_
      obtain rfl : program = other := Option.some.inj hother
      exact validate_of_scanProgram hread
  have hempty : programFileRecord.empty.Checked := fun _ h => absurd h (Option.not_mem_none _)
  obtain ⟨draft, hchecked, hcomplete⟩ := Record.exists_draft_of_scan hempty hslots hread
  obtain ⟨schema, program⟩ := draft
  cases schema with
  | none => cases hcomplete
  | some schema =>
      cases program with
      | none => cases hcomplete
      | some program =>
          cases hcomplete
          exact hchecked program rfl

end Stagecraft.Codec

namespace Stagecraft.Shell

open Codec

/-! ## 4. Files -/

variable {program : Program} {path : String}

theorem fileText_toUTF8 (text : String) : fileText text.toUTF8 = .ok text := by
  have hread : String.fromUTF8? text.toUTF8 = some text := dif_pos text.isValidUTF8
  rw [fileText, hread]

theorem loadProgram_programFileText (h : program.validate = .ok ()) (path : String) :
    loadProgram path (some (.file (programFileText program).toUTF8)) = .ok program := by
  have hparsed : programOfText (programFileText program) = .ok program := by
    rw [programOfText, parseProgramFile_text h]
    exact if_pos rfl
  rw [loadProgram, programOfBytes, fileText_toUTF8, Except.bind, hparsed]

/-- **A program that was loaded has passed the check**, whatever stood at the path. -/
theorem validate_of_loadProgram {found : Option Node} (h : loadProgram path found = .ok program) :
    program.validate = .ok () := by
  unfold loadProgram at h
  split at h
  · cases h
  · cases h
  next bytes =>
    unfold programOfBytes at h
    cases htext : fileText bytes with
    | error complaint =>
        rw [htext] at h
        cases h
    | ok text =>
        rw [htext] at h
        have hparsed : programOfText text = .ok program := h
        unfold programOfText at hparsed
        split at hparsed
        · cases hparsed
        next file hfile =>
          split at hparsed
          · cases hparsed
            exact validate_of_parseProgramFile hfile
          · cases hparsed

/-- **Saving and loading loses nothing, and only programs that pass the check are loaded.** A
    program that passes the check is what its text is read as, and what is loaded from the file in
    which it is stored. Conversely, what any text or file is read as passes the check, and is again
    what its own text is read as. -/
theorem saved_program_loads :
    (∀ program : Program, program.validate = .ok () →
      parseProgram (programText program) = .ok program ∧
      ∀ path, loadProgram path (some (.file (programFileText program).toUTF8)) = .ok program) ∧
    (∀ (text : String) (program : Program), parseProgram text = .ok program →
      program.validate = .ok () ∧ parseProgram (programText program) = .ok program) ∧
    (∀ (path : String) (found : Option Node) (program : Program),
      loadProgram path found = .ok program →
        program.validate = .ok () ∧
        loadProgram path (some (.file (programFileText program).toUTF8)) = .ok program) := by
  refine ⟨fun program h => ?_, fun text program hread => ?_, fun path found program hload => ?_⟩
  · exact ⟨parseProgram_text h .compact, loadProgram_programFileText h⟩
  · have h := validate_of_parseProgram hread
    exact ⟨h, parseProgram_text h .compact⟩
  · have h := validate_of_loadProgram hload
    exact ⟨h, loadProgram_programFileText h path⟩

/-- A stage that was written as arrays, with an id without hyphens, is read, and comes back from the
    file in which it is stored then. -/
theorem stage_in_arrays_loads : ∃ program : Program,
    parseProgram "[[[\"00000000000000000000000000000001\", \"stage\", \"Stage\", []]]]" =
      .ok program ∧ program.actors.length = 1 ∧ parseProgram (programText program) = .ok program ∧
      loadProgram "stage.program.json" (some (.file (programFileText program).toUTF8)) =
        .ok program := by
  have hread : parseProgram
      "[[[\"00000000000000000000000000000001\", \"stage\", \"Stage\", []]]]" =
        .ok ⟨[⟨⟨1⟩, .stage, "Stage", []⟩]⟩ := by rfl
  obtain ⟨hvalid, hagain⟩ := saved_program_loads.2.1 _ _ hread
  exact ⟨_, hread, rfl, hagain, (saved_program_loads.1 _ hvalid).2 "stage.program.json"⟩

end Stagecraft.Shell
