import Stagecraft.Codec.Program

/-!
# Program files

A program is stored in a file under the name of the schema in which it is written. The schema's
name is looked at after the program has been read.
-/

namespace Stagecraft

/-- What a program file holds. -/
structure ProgramFile where
  schema : String
  program : Program
deriving DecidableEq

/-- The schema in which programs are written. -/
def ProgramFile.currentSchema : String := "structured-program.v1"

/-- The end of a program file's name. -/
def ProgramFile.nameEnd : String := ".program.json"

namespace Codec

open Json

/-- A program file as a value. -/
def ofProgramFile (file : ProgramFile) : Value :=
  .object [("schemaVersion", .string file.schema), ("program", ofProgram file.program)]

/-- What is known of a program file while it is read. -/
structure ProgramFileDraft where
  schema : Option String
  program : Option Program

/-- How a program file is read. -/
def programFileRecord : Record ProgramFileDraft ProgramFile where
  title := "struct ProgramFileV1"
  empty := ⟨none, none⟩
  slots :=
    [⟨"schemaVersion", (·.schema.isSome),
      fill scanString fun draft x => { draft with schema := some x }⟩,
     ⟨"program", (·.program.isSome),
      fill scanProgram fun draft x => { draft with program := some x }⟩]
  complete draft := do
    let schema ← required "schemaVersion" draft.schema
    let program ← required "program" draft.program
    pure ⟨schema, program⟩

/-- The program file that a text gives. -/
def parseProgramFile (text : String) : Except Fault ProgramFile :=
  parse programFileRecord.scan text

/-- The text of the file in which a program is stored. -/
def programFileText (program : Program) : String :=
  (ofProgramFile ⟨ProgramFile.currentSchema, program⟩).text .indented

end Codec

end Stagecraft
