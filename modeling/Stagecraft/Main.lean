import Stagecraft.Shell.Command

/-!
# The command line program

`main` understands its arguments, reads what the command needs from the disk, and prints what the
command reports. A directory is read with everything in it only where the command goes through it;
links inside of it are not followed. All that is decided is decided in `Stagecraft.Shell`.
-/

namespace Stagecraft.Console

/-! ## 1. Reading and writing -/

/-- The system's words for a failure. -/
def systemWords : IO.Error → String
  | .noFileOrDirectory _ code words => s!"{words} (os error {code})"
  | .alreadyExists _ code words => s!"{words} (os error {code})"
  | .inappropriateType _ code words => s!"{words} (os error {code})"
  | .permissionDenied _ code words => s!"{words} (os error {code})"
  | .invalidArgument _ code words => s!"{words} (os error {code})"
  | .resourceExhausted _ code words => s!"{words} (os error {code})"
  | .noSuchThing _ code words => s!"{words} (os error {code})"
  | .resourceBusy code words => s!"{words} (os error {code})"
  | .otherError code words => s!"{words} (os error {code})"
  | other => toString other

/-- The program files and directories of a directory. -/
partial def entriesAt (path : String) : IO (List (String × Shell.Node)) := do
  let here ← IO.currentDir
  let mut entries := []
  for entry in ← (here / path).readDir do
    let inner := s!"{path}/{entry.fileName}"
    match (← (here / inner).symlinkMetadata).type with
    | .dir => entries := (entry.fileName, .folder (← entriesAt inner)) :: entries
    | .file =>
      if Shell.isProgramPath [entry.fileName] then
        entries := (entry.fileName, .file (← IO.FS.readBinFile inner)) :: entries
    | _ => pure ()
  pure entries

/-- What stands at a path; a directory without its entries unless `deep`. -/
def nodeAt (deep : Bool) (path : String) : IO (Option Shell.Node) := do
  let place := (← IO.currentDir) / path
  if path.isEmpty then pure none
  else if ← place.isDir then
    if deep then pure (some (.folder (← entriesAt path))) else pure (some (.folder []))
  else if ← place.pathExists then pure (some (.file (← IO.FS.readBinFile path)))
  else pure none

/-- What stands at the path that a command reads. -/
def foundBy (command : Shell.Command) : IO (Option Shell.Node) :=
  match command with
  | .check directory => nodeAt true directory
  | other =>
    match other.reads with
    | some path => nodeAt false path
    | none => pure none

/-- Makes a directory, given by its components in reverse, and those around it that are not there
    yet; `root` stands before the first component. -/
def makeFolders (root : String) : List String → IO Unit
  | [] => pure ()
  | last :: front => do
    let path := root ++ String.intercalate "/" (last :: front).reverse
    let make : IO Unit := do
      try IO.FS.createDir path
      catch fault => unless ← ((← IO.currentDir) / path).isDir do throw fault
    try IO.FS.createDir path
    catch
      | .noFileOrDirectory .. =>
        makeFolders root front
        make
      | _ => make

/-- Writes a file, and makes the directories around it that are not there yet. -/
def saveFile (path : String) (text : String) : IO Unit := do
  makeFolders (if path.startsWith "/" then "/" else "") (Shell.parentComponents path).reverse
  IO.FS.writeBinFile path text.toUTF8

/-! ## 2. Doing what is asked -/

/-- An identifier of random bits, marked as such in the digits that the standard reserves. -/
def randomIdent : IO Ident := do
  let bytes ← IO.getRandomBytes 16
  let word : Ident := bytes.foldl (fun word byte => word * 256 + BitVec.ofNat 128 byte.toNat) 0
  pure (word &&& 0xFFFFFFFFFFFF0FFF3FFFFFFFFFFFFFFF ||| 0x40008000000000000000)

/-- What a command prints. A command that is refused by the system reports the system's words. -/
def reportOf (command : Shell.Command) : IO (Except Complaint (List String)) :=
  match command with
  | .new name out => do
    match Shell.newProgram name ⟨← randomIdent⟩ with
    | .error complaint => pure (.error complaint)
    | .ok program =>
      try
        saveFile out (Codec.programFileText program)
        pure (.ok (Shell.newLines program out))
      catch fault => pure (.error (Shell.writeComplaint (systemWords fault)))
  | command =>
    try return command.report (← foundBy command)
    catch fault => pure (.error ⟨"CLI_PROGRAM_READ", systemWords fault⟩)

end Stagecraft.Console

open Stagecraft

/-- Does what the arguments ask for, and yields the exit code. -/
def main (arguments : List String) : IO UInt32 := do
  match Shell.Command.ofArguments? arguments with
  | none =>
    IO.eprintln "usage: stagecraft flatten|run|check-name|new|check [options]"
    pure 2
  | some command =>
    let (exit, lines) := Shell.settle (← Console.reportOf command)
    IO.print (Shell.printed lines)
    pure exit.toUInt32
