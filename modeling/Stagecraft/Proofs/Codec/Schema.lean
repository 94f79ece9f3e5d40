import Stagecraft.Proofs.Codec.Program
import Stagecraft.Proofs.Json.Members

/-!
# Files of other schemas

The schema of a file is looked at after everything in it has been read as in the current schema.

* `Codec.extents_scanProgram`: a program ends where it is passed over to, as its parts do;
* `Codec.parseProgramFile_iff`: what an object is read as is given by its two members;
* `Shell.foreign_schema_is_refused`: a file of another schema is never loaded. That it is of another
  schema is only said if its program can be read; otherwise the program is blamed.
-/

namespace Stagecraft.Codec

open Json

/-! ## 1. Where the parts of a program end -/

theorem extents_scanIdent : Extents scanIdent := by
  intro s x rest h
  unfold scanIdent at h
  split at h
  · cases h
  next htext =>
    split at h
    · cases h
    · cases h
      exact extents_scanText identTitle _ _ _ htext

theorem extents_scanTrigger (room : Nat) : Extents (scanTrigger room) :=
  extents_scanVariants room

theorem extents_scanHandler (room : Nat) : Extents (handlerRecord.scan room) := by
  have hid : ∀ room, Extents (scanHandlerId room) := fun _ => extents_scanIdent.map HandlerId.mk
  have hbody : ∀ room, Extents (scanList scanString room) :=
    extents_scanList fun _ => extents_scanText "a string"
  refine Record.extents_scan (List.forall_mem_cons.mpr ⟨?_, List.forall_mem_cons.mpr ⟨?_,
    List.forall_mem_singleton.mpr ?_⟩⟩) room
  · exact Slot.extents_of_fill rfl hid
  · exact Slot.extents_of_fill rfl extents_scanTrigger
  · exact Slot.extents_of_fill rfl hbody

theorem extents_scanActor (room : Nat) : Extents (actorRecord.scan room) := by
  have hid : ∀ room, Extents (scanActorId room) := fun _ => extents_scanIdent.map ActorId.mk
  have hkind : ∀ room, Extents (scanKind room) := fun room =>
    (extents_scanChoice kindNames room).map _
  have hname : ∀ room, Extents (scanString room) := fun _ => extents_scanText "a string"
  refine Record.extents_scan (List.forall_mem_cons.mpr ⟨?_, List.forall_mem_cons.mpr ⟨?_,
    List.forall_mem_cons.mpr ⟨?_, List.forall_mem_singleton.mpr ?_⟩⟩⟩) room
  · exact Slot.extents_of_fill rfl hid
  · exact Slot.extents_of_fill rfl hkind
  · exact Slot.extents_of_fill rfl hname
  · exact Slot.extents_of_fill rfl (extents_scanList extents_scanHandler)

/-- **A program ends where it is passed over to.** -/
theorem extents_scanProgram (room : Nat) : Extents (scanProgram room) := by
  have hactors : ∀ room, Extents (scanList actorRecord.scan room) :=
    extents_scanList extents_scanActor
  have htree : Extents (treeRecord.scan room) :=
    Record.extents_scan (List.forall_mem_singleton.mpr (Slot.extents_of_fill rfl hactors)) room
  intro s program rest h
  unfold scanProgram at h
  split at h
  · cases h
  next hread =>
    split at h
    · cases h
    · cases h
      exact htree _ _ _ hread

/-! ## 2. What the members of a file give -/

theorem extents_slots : ∀ slot ∈ programFileRecord.slots, slot.Extents := by
  have hschema : ∀ room, Extents (scanString room) := fun _ => extents_scanText "a string"
  refine List.forall_mem_cons.mpr ⟨?_, List.forall_mem_singleton.mpr ?_⟩
  · exact Slot.extents_of_fill rfl hschema
  · exact Slot.extents_of_fill rfl extents_scanProgram

section Taken

variable {α : Type} {read : Scan α} {x : α} {s : List Char} {values : List (List Char)}
  {last : Option α}

/-- How members of one key fill what is known of their value: there is one at most, and it can be
    read. -/
def Taken (read : Scan α) : Option α → List (List Char) → Option α → Prop
  | known, [], last => last = known
  | none, [s], last => ∃ x rest, read s = .ok (x, rest) ∧ last = some x
  | _, _, _ => False

theorem not_taken_again : ¬ Taken read (some x) (s :: values) last := by
  simp [Taken]

theorem not_taken_of_error {fault : Fault} (h : read s = .error fault) :
    ¬ Taken read none (s :: values) last := by
  cases values with
  | nil => simp [Taken, h]
  | cons t values => simp [Taken]

theorem taken_of_ok {rest : List Char} (h : read s = .ok (x, rest)) :
    Taken read none (s :: values) last ↔ Taken read (some x) values last := by
  cases values with
  | nil => simp [Taken, h]
  | cons t values => simp [Taken]

/-- A value that is known in the end is given by one member. -/
theorem taken_some_iff : Taken read none values (some x) ↔
    ∃ s rest, values = [s] ∧ read s = .ok (x, rest) := by
  match values with
  | [] => simp [Taken]
  | [s] => simp [Taken]
  | s :: t :: values => simp [Taken]

end Taken

/-- The members of a file fill its draft with what is given for the two keys. -/
theorem foldlM_takeMember_iff {room : Nat} {last : ProgramFileDraft} :
    ∀ {all : List Member} {draft : ProgramFileDraft},
      all.foldlM (programFileRecord.takeMember room) draft = some last ↔
        Taken (scanString room) draft.schema (valuesOf "schemaVersion" all) last.schema ∧
        Taken (scanProgram room) draft.program (valuesOf "program" all) last.program
  | [], draft => by
      obtain ⟨schema, program⟩ := draft
      obtain ⟨schema', program'⟩ := last
      simp [valuesOf, Taken, eq_comm]
  | (key, s) :: all, ⟨schema, program⟩ => by
      rw [List.foldlM_cons, valuesOf_cons, valuesOf_cons]
      by_cases hschema : key = "schemaVersion"
      · subst hschema
        rw [if_pos rfl, if_neg (by decide), Record.takeMember_of_fill rfl rfl]
        cases schema with
        | some known => simp [not_taken_again]
        | none =>
            cases hread : scanString room s with
            | error fault => simp [not_taken_of_error hread, Except.toOption]
            | ok read =>
                obtain ⟨schema, rest⟩ := read
                rw [taken_of_ok hread]
                exact foldlM_takeMember_iff
      by_cases hprogram : key = "program"
      · subst hprogram
        rw [if_neg (by decide), if_pos rfl, Record.takeMember_of_fill rfl rfl]
        cases program with
        | some known => simp [not_taken_again]
        | none =>
            cases hread : scanProgram room s with
            | error fault => simp [not_taken_of_error hread, Except.toOption]
            | ok read =>
                obtain ⟨program, rest⟩ := read
                rw [taken_of_ok hread]
                exact foldlM_takeMember_iff
      · have htake : programFileRecord.takeMember room ⟨schema, program⟩ (key, s) =
            some ⟨schema, program⟩ := by
          simp [Record.takeMember, programFileRecord, Ne.symm hschema, Ne.symm hprogram]
        rw [htake, if_neg hschema, if_neg hprogram]
        exact foldlM_takeMember_iff

theorem complete_eq_iff {draft : ProgramFileDraft} {file : ProgramFile} :
    (programFileRecord.complete draft).toOption = some file ↔
      draft = ⟨some file.schema, some file.program⟩ := by
  obtain ⟨schema, program⟩ := draft
  obtain ⟨schema', program'⟩ := file
  cases schema with
  | none => exact iff_of_false nofun nofun
  | some schema =>
      cases program with
      | none => exact iff_of_false nofun nofun
      | some program =>
          show some (ProgramFile.mk schema program) = some ⟨schema', program'⟩ ↔ _
          simp

/-- **What an object is read as is given by its two members.** Each key is there once, and its value
    can be read; other keys make no difference. -/
theorem parseProgramFile_iff {text : String} {all : List Member} {file : ProgramFile}
    (h : members text = .ok all) :
    parseProgramFile text = .ok file ↔
      Gives all "schemaVersion" (scanString 126) file.schema ∧
      Gives all "program" (scanProgram 126) file.program := by
  have hparse : (parseProgramFile text).toOption = _ := Record.parse_of_members extents_slots h
  have hok : parseProgramFile text = .ok file ↔ (parseProgramFile text).toOption = some file := by
    cases parseProgramFile text <;> simp [Except.toOption]
  have hfilled : all.foldlM (programFileRecord.takeMember 126) programFileRecord.empty =
      some ⟨some file.schema, some file.program⟩ ↔
        Taken (scanString 126) none (valuesOf "schemaVersion" all) (some file.schema) ∧
        Taken (scanProgram 126) none (valuesOf "program" all) (some file.program) :=
    foldlM_takeMember_iff
  rw [taken_some_iff, taken_some_iff] at hfilled
  rw [hok, hparse, Option.bind_eq_some_iff]
  simp only [complete_eq_iff, exists_eq_right]
  exact hfilled

end Stagecraft.Codec

namespace Stagecraft.Shell

open Codec Json

/-! ## 3. Files of other schemas -/

variable {text schema : String} {all : List Member}

theorem loadProgram_text (path text : String) :
    loadProgram path (some (.file text.toUTF8)) = programOfText text := by
  rw [loadProgram, programOfBytes, fileText_toUTF8, Except.bind]

/-- The program of an object whose schema is given, if there is one. -/
theorem parseProgramFile_of_schema (hmembers : members text = .ok all)
    (hschema : Gives all "schemaVersion" (scanString 126) schema) {file : ProgramFile}
    (h : parseProgramFile text = .ok file) :
    file.schema = schema ∧ Gives all "program" (scanProgram 126) file.program := by
  obtain ⟨⟨s, rest, hs, hfound⟩, hprogram⟩ := (parseProgramFile_iff hmembers).mp h
  obtain ⟨s', rest', hs', hgiven⟩ := hschema
  rw [hs] at hs'
  cases hs'
  rw [hfound] at hgiven
  cases hgiven
  exact ⟨rfl, hprogram⟩

/-- **A file of another schema is never loaded, but it is not always said why.** Whatever its other
    members are, if the text of a file is an object with one key for the schema, whose value is
    another schema than the current one, loading it fails. That it is of another schema is said
    exactly if it has one program too, and this can be read as one of the current schema. Otherwise
    the file is said to be invalid. Every text that is read as a value, and is an object with that
    key once, is such a text. -/
theorem foreign_schema_is_refused (path text : String) (hforeign : schema ≠ "structured-program.v1") :
    let load := loadProgram path (some (.file text.toUTF8))
    (∀ all, members text = .ok all → Gives all "schemaVersion" (scanString 126) schema →
      (∀ program, load ≠ .ok program) ∧
      (load = .error ⟨"CLI_PROGRAM_SCHEMA", s!"Unsupported program file schema: {schema}"⟩ ↔
        ∃ program, Gives all "program" (scanProgram 126) program) ∧
      ((¬ ∃ program, Gives all "program" (scanProgram 126) program) →
        ∃ message, load = .error ⟨"CLI_PROGRAM_INVALID", message⟩)) ∧
    ∀ fields, Value.parse text = .ok (.object fields) →
      fields.filter (·.1 == "schemaVersion") = [("schemaVersion", .string schema)] →
        ∃ all, members text = .ok all ∧ Gives all "schemaVersion" (scanString 126) schema := by
  intro load
  have hload : load = programOfText text := loadProgram_text path text
  refine ⟨fun all hmembers hschema => ?_, fun fields => gives_of_parse "a string"⟩
  rw [hload]
  unfold programOfText
  cases hparse : parseProgramFile text with
  | error fault =>
      have hnone : ¬ ∃ program, Gives all "program" (scanProgram 126) program := by
        rintro ⟨program, hprogram⟩
        have hok : parseProgramFile text = .ok ⟨schema, program⟩ :=
          (parseProgramFile_iff hmembers).mpr ⟨hschema, hprogram⟩
        rw [hparse] at hok
        cases hok
      refine ⟨nofun, iff_of_false ?_ hnone, fun _ => ⟨_, rfl⟩⟩
      simp
  | ok file =>
      obtain ⟨hfile, hprogram⟩ := parseProgramFile_of_schema hmembers hschema hparse
      have hother : ¬ file.schema = ProgramFile.currentSchema := by
        rw [hfile]
        exact hforeign
      simp only [if_neg hother]
      refine ⟨nofun, iff_of_true (by rw [hfile]) ⟨_, hprogram⟩, fun hnone => ?_⟩
      exact absurd ⟨_, hprogram⟩ hnone

/-- A file of a later schema, with a program in front of the schema that can be read. -/
def laterFile : String :=
  "\x7b\"program\":[[[\"00000000000000000000000000000001\",\"stage\",\"Stage\",[]]]],\"schemaVersion\":\"structured-program.v2\"\x7d"

/-- It is said to be of that schema. -/
theorem later_schema_is_named : ∃ all, members laterFile = .ok all ∧
    Gives all "schemaVersion" (scanString 126) "structured-program.v2" ∧
    "structured-program.v2" ≠ "structured-program.v1" ∧
    loadProgram "stage.program.json" (some (.file laterFile.toUTF8)) =
      .error ⟨"CLI_PROGRAM_SCHEMA", "Unsupported program file schema: structured-program.v2"⟩ := by
  have hforeign : "structured-program.v2" ≠ "structured-program.v1" := by decide
  obtain ⟨all, hmembers, hschema, hprogram⟩ : ∃ all, members laterFile = .ok all ∧
      Gives all "schemaVersion" (scanString 126) "structured-program.v2" ∧
      Gives all "program" (scanProgram 126) ⟨[⟨⟨1⟩, .stage, "Stage", []⟩]⟩ := by
    refine ⟨_, rfl, ?_, ?_⟩
    · exact ⟨_, _, rfl, rfl⟩
    · exact ⟨_, _, rfl, rfl⟩
  obtain ⟨hrefused, -⟩ := foreign_schema_is_refused "stage.program.json" laterFile hforeign
  obtain ⟨-, hnamed, -⟩ := hrefused all hmembers hschema
  exact ⟨all, hmembers, hschema, hforeign, hnamed.mpr ⟨_, hprogram⟩⟩

/-- A file of a later schema that has sprites where the current one has actors is said to be
    invalid. -/
theorem later_shape_is_blamed :
    let text := "\x7b\"schemaVersion\":\"structured-program.v2\",\"program\":\x7b\"sprites\":[]\x7d\x7d"
    ∃ all, members text = .ok all ∧
      Gives all "schemaVersion" (scanString 126) "structured-program.v2" ∧
      loadProgram "p.program.json" (some (.file text.toUTF8)) =
        .error ⟨"CLI_PROGRAM_INVALID", "missing field `actors` at line 1 column 65"⟩ := by
  refine ⟨_, rfl, ⟨_, _, rfl, rfl⟩, ?_⟩
  rw [loadProgram_text]
  rfl

end Stagecraft.Shell
