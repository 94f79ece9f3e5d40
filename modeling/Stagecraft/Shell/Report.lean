import Stagecraft.Codec.ProgramFile
import Stagecraft.Program.Edit
import Stagecraft.Session
import Stagecraft.Shell.Disk
import Stagecraft.SourceMap.Audit

/-!
# What the commands print

Every command prints lines of the form `KEY:value`. The first one says whether it went well; a
value that may hold any characters is a JSON string, so that it stays on its line.

The commands do not look at a disk themselves: what stands at the path they are given is handed to
them.
-/

namespace Stagecraft.Shell

/-! ## 1. Lines -/

/-- The lines of a refusal. -/
def complaintLines (complaint : Complaint) : List String :=
  ["RESULT:ERROR", s!"ERROR_CODE:{complaint.code}",
    s!"ERROR_MSG_JSON:{Json.quote complaint.message}"]

/-- The lines of a flattening. -/
def flatteningLines (flattening : Flattening) : List String :=
  ["RESULT:OK", s!"LINES:{flattening.map.lineCount}"]
    ++ flattening.map.entries.map (fun entry =>
      s!"MAP:{entry.startLine}|{entry.actor.text}|{entry.handler.text}")
    ++ [s!"TEXT_JSON:{Json.quote flattening.text}"]

/-- The lines of an attribution, or of there being none. -/
def attributionLines : Option Attribution → List String
  | none => ["EVENT:SUCCESS"]
  | some (.located place actorName message) =>
    ["EVENT:ERROR_LOCATED", s!"ACTOR:{place.actor.text}|{actorName}",
      s!"HANDLER:{place.handler.text}", s!"LINE:{place.lineWithin}",
      s!"MESSAGE_JSON:{Json.quote message}"]
  | some (.unattributable message) =>
    ["EVENT:ERROR_UNATTRIBUTED", s!"MESSAGE_JSON:{Json.quote message}"]

/-- The lines of a run. -/
def runLines (report : RunReport) : List String :=
  ["RESULT:OK"] ++ report.result.output.map (fun line => s!"OUTPUT_JSON:{Json.quote line}")
    ++ attributionLines report.attribution

/-- The lines of a judgement on a name. -/
def nameLines : Option NameFault → List String
  | none => ["RESULT:OK", "NAME:VALID"]
  | some fault => ["RESULT:OK", "NAME:INVALID", s!"REASON_JSON:{Json.quote fault.message}"]

/-- The lines of a new program. -/
def newLines (program : Program) (out : String) : List String :=
  ["RESULT:OK", s!"STAGE:{program.stageId.text}", s!"PROGRAM_OUT:{out}"]

/-- The lines of a check: every program with the number of its lines. -/
def checkLines (summaries : List (String × Nat)) : List String :=
  ["RESULT:OK"] ++ summaries.map (fun (path, lines) => s!"PROGRAM:{path}|{lines}")
    ++ [s!"CHECKED:{summaries.length}"]

/-! ## 2. Loading -/

/-- The text of a file. -/
def fileText (bytes : ByteArray) : Except Complaint String :=
  match String.fromUTF8? bytes with
  | some text => .ok text
  | none => .error ⟨"CLI_PROGRAM_READ", "stream did not contain valid UTF-8"⟩

/-- The program that a text stores. The text is read as a whole before its schema is looked at. -/
def programOfText (text : String) : Except Complaint Program :=
  match Codec.parseProgramFile text with
  | .error fault => .error ⟨"CLI_PROGRAM_INVALID", fault.describe text⟩
  | .ok file =>
    if file.schema = ProgramFile.currentSchema then .ok file.program
    else .error ⟨"CLI_PROGRAM_SCHEMA", s!"Unsupported program file schema: {file.schema}"⟩

/-- The program that a file stores. -/
def programOfBytes (bytes : ByteArray) : Except Complaint Program :=
  (fileText bytes).bind programOfText

/-- The program at a path, given what stands there. -/
def loadProgram (path : String) : Option Node → Except Complaint Program
  | none => .error ⟨"CLI_PROGRAM_NOT_FOUND", s!"Program file does not exist: {path}"⟩
  | some (.folder _) => .error ⟨"CLI_PROGRAM_READ", OsFault.isDirectory.message⟩
  | some (.file bytes) => programOfBytes bytes

/-! ## 3. Checking a directory -/

/-- Whether a file counts as a program file, by the end of its name. -/
def isProgramPath (path : List String) : Bool :=
  (path.getLast?.getD "").endsWith ProgramFile.nameEnd

/-- A path as it is printed: with a slash between its components, and for every backslash. -/
def pathText (path : List String) : String :=
  (String.intercalate "/" path).map fun c => if c = '\\' then '/' else c

/-- The program files below a directory, in the order of their paths. -/
def programFiles (node : Node) : List (List String × ByteArray) :=
  node.files.filter fun (path, _) => isProgramPath path

/-- Loads program files in order, up to the first that fails. -/
def loadAll : List (List String × ByteArray) → Except Complaint (List (String × Program))
  | [] => .ok []
  | (path, bytes) :: more =>
    match programOfBytes bytes with
    | .error complaint => .error (complaint.about (pathText path))
    | .ok program =>
      match loadAll more with
      | .error complaint => .error complaint
      | .ok programs => .ok ((pathText path, program) :: programs)

/-- The number of lines of every program, up to the first whose source map is not its own. -/
def verifyAll : List (String × Program) → Except Complaint (List (String × Nat))
  | [] => .ok []
  | (path, program) :: more =>
    match program.audit program.flatten.map with
    | .error fault => .error (fault.complaint.about path)
    | .ok () =>
      match verifyAll more with
      | .error complaint => .error complaint
      | .ok summaries => .ok ((path, program.flatten.map.lineCount) :: summaries)

/-- The summaries of a directory, given what stands at its path. -/
def checkDirectory (directory : String) : Option Node → Except Complaint (List (String × Nat))
  | none =>
    .error ⟨"CLI_PROGRAMS_DIR_NOT_FOUND", s!"programs-dir does not exist: {directory}"⟩
  | some (.file _) =>
    .error ⟨"CLI_PROGRAMS_DIR_NOT_DIR", s!"programs-dir is not a directory: {directory}"⟩
  | some (.folder entries) =>
    match loadAll (programFiles (.folder entries)) with
    | .error complaint => .error complaint
    | .ok [] =>
      .error ⟨"CLI_PROGRAMS_DIR_EMPTY", s!"No {ProgramFile.nameEnd} files under {directory}"⟩
    | .ok programs => verifyAll programs

end Stagecraft.Shell
