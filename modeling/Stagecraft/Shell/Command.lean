import Stagecraft.Script.Host
import Stagecraft.Shell.Arguments
import Stagecraft.Shell.Report

/-!
# Commands

`execute` does what a command line asks for on a disk, and yields the exit code, the printed lines
and the disk afterwards. A mistake of usage prints nothing and has the exit code 2, a refusal has
1. Only `new` changes the disk; it judges the name of the stage before it looks at the disk. Where
the system refuses to write, the directories that were made by then stay.
-/

namespace Stagecraft.Shell

/-- What a command leaves behind. -/
structure Outcome where
  exit : Nat
  lines : List String
  disk : Disk

/-- The path that a command reads. -/
def Command.reads : Command → Option String
  | .flatten program => some program
  | .run program _ => some program
  | .check directory => some directory
  | .checkName .. => none
  | .new .. => none

/-- Runs a program with the host for scripts. -/
def runProgram (program : Program) (maxOperations : Option Nat) : RunReport :=
  let supply : Supply := ⟨fun _ => 0, 0, 0⟩
  ((Session.ofProgram program).run (Script.host ⟨maxOperations, none⟩) supply).1

/-- What a command that writes nothing prints, given what stands at the path it reads. -/
def Command.report (found : Option Node) : Command → Except Complaint (List String)
  | .flatten path => (fun program => flatteningLines program.flatten) <$> loadProgram path found
  | .run path limit =>
    (fun program => runLines (runProgram program limit)) <$> loadProgram path found
  | .check directory => checkLines <$> checkDirectory directory found
  | .checkName name existing => .ok (nameLines (Name.fault? existing name))
  | .new .. => .ok []

/-- A new program with only a stage. -/
def newProgram (name : Option String) (fresh : ActorId) : Except Complaint Program :=
  (Program.ofStage (name.getD defaultStageName) fresh).mapError EditFault.complaint

/-- The refusal of the system to write a file. -/
def writeComplaint (message : String) : Complaint :=
  ⟨"CLI_PROGRAM_WRITE", message⟩

/-- Makes a new program and stores it. -/
def createProgram (disk : Disk) (name : Option String) (out : String) (fresh : ActorId) :
    Except Complaint (List String) × Disk :=
  match newProgram name fresh with
  | .error complaint => (.error complaint, disk)
  | .ok program =>
    match disk.save out (Codec.programFileText program).toUTF8 with
    | (.error fault, disk) => (.error (writeComplaint fault.message), disk)
    | (.ok (), disk) => (.ok (newLines program out), disk)

/-- The exit code and the lines of a report. -/
def settle : Except Complaint (List String) → Nat × List String
  | .ok lines => (0, lines)
  | .error complaint => (1, complaintLines complaint)

/-- What comes of a command, the lines that it prints or a refusal, and the disk afterwards. -/
def Command.result (disk : Disk) (fresh : ActorId) (command : Command) :
    Except Complaint (List String) × Disk :=
  match command with
  | .new name out => createProgram disk name out fresh
  | command => (command.report (command.reads.bind disk.find?), disk)

/-- Does what a command asks for. -/
def Command.perform (disk : Disk) (fresh : ActorId) (command : Command) : Outcome :=
  let (result, disk) := command.result disk fresh
  let (exit, lines) := settle result
  ⟨exit, lines, disk⟩

/-- Does what a command line asks for. -/
def execute (disk : Disk) (fresh : ActorId) (arguments : List String) : Outcome :=
  match Command.ofArguments? arguments with
  | none => ⟨2, [], disk⟩
  | some command => command.perform disk fresh

/-- The printed text of lines. -/
def printed (lines : List String) : String :=
  String.join (lines.map (· ++ "\n"))

end Stagecraft.Shell
