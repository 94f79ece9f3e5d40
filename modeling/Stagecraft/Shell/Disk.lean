/-!
# Files and directories

A `Node` is a file or a directory with everything in it. A `Disk` is all that there is below the
root, with the directory in which the program works. A path that starts with a slash leads from the
root, and any other from that directory.

* `Node.resolve` follows components one after the other; `Disk.place` yields the names that lead
  from the root to where a path ends, and `Disk.find` what stands there;
* `Disk.makeFolder` and `Disk.writeFile` change the tree or fail as the system does;
* `Disk.makeFolders` and `Disk.save` take several steps. The disk is yielded whether they fail or
  not, since a step that was taken is not taken back;
* `Node.files` lists all files below a directory with the components of their paths.
-/

namespace Stagecraft.Shell

/-! ## 1. Nodes and faults -/

/-- A file or a directory. -/
inductive Node where
  | file (bytes : ByteArray)
  | folder (entries : List (String × Node))

/-- Why the system refuses an operation. -/
inductive OsFault where
  | notFound
  | alreadyExists
  | notDirectory
  | isDirectory
  | nameTooLong
  | nulByte
deriving DecidableEq

/-- The system's words. -/
def OsFault.message : OsFault → String
  | notFound => "No such file or directory (os error 2)"
  | alreadyExists => "File exists (os error 17)"
  | notDirectory => "Not a directory (os error 20)"
  | isDirectory => "Is a directory (os error 21)"
  | nameTooLong => "File name too long (os error 36)"
  | nulByte => "file name contained an unexpected NUL byte"

/-! ## 2. Paths -/

/-- Adds a character to the first component. -/
def consComponent (c : Char) : List (List Char) → List (List Char)
  | [] => [[c]]
  | component :: more => (c :: component) :: more

/-- The components of a path, between its slashes; empty ones too. -/
def splitPath : List Char → List (List Char)
  | [] => [[]]
  | c :: cs => if c = '/' then [] :: splitPath cs else consComponent c (splitPath cs)

/-- The components of a path, empty ones too. -/
def components (path : String) : List String :=
  (splitPath path.toList).map String.ofList

/-- The components that make a difference: without empty ones, and without single dots after the
    first. -/
def plainComponents (path : String) : List String :=
  match (components path).filter (· ≠ "") with
  | [] => []
  | first :: more => first :: more.filter (· ≠ ".")

/-- The components of the directory that holds the last component of a path. -/
def parentComponents (path : String) : List String :=
  (plainComponents path).dropLast

/-! ## 3. Places -/

namespace Node

/-- Whether a node is a directory. -/
def isFolder : Node → Bool
  | folder _ => true
  | file _ => false

/-- What stands where names lead. -/
def at? : Node → List String → Option Node
  | node, [] => some node
  | file _, _ :: _ => none
  | folder entries, name :: names => (entries.lookup name).bind (·.at? names)

/-- One step from a place, given by the names that lead to it, along a component of a path. The
    directory around the root is the root itself. -/
def step (root : Node) (place : List String) (component : String) :
    Except OsFault (List String) :=
  match root.at? place with
  | none => .error .notFound
  | some (file _) => .error .notDirectory
  | some (folder _) =>
    if component = "" ∨ component = "." then .ok place
    else if component = ".." then .ok place.dropLast
    else if 255 < component.utf8ByteSize then .error .nameTooLong
    else if (root.at? (place ++ [component])).isSome then .ok (place ++ [component])
    else .error .notFound

/-- Where components lead from a place. -/
def resolve (root : Node) : List String → List String → Except OsFault (List String)
  | place, [] => .ok place
  | place, component :: more =>
    match root.step place component with
    | .error fault => .error fault
    | .ok place => root.resolve place more

/-- Puts a node under a name into the entries of a directory. -/
def putEntry (name : String) (node : Node) : List (String × Node) → List (String × Node)
  | [] => [(name, node)]
  | (other, old) :: more =>
    if other = name then (name, node) :: more else (other, old) :: putEntry name node more

/-- Puts a node under a name into the directory that names lead to. -/
def put (name : String) (node : Node) : List String → Node → Node
  | _, file bytes => file bytes
  | [], folder entries => folder (putEntry name node entries)
  | first :: more, folder entries =>
    match entries.lookup first with
    | some inner => folder (putEntry first (put name node more inner) entries)
    | none => folder entries

end Node

/-! ## 4. Disks -/

/-- Everything below the root, and the names that lead to the directory in which the program
    works. -/
structure Disk where
  root : Node
  working : List String

namespace Disk

/-- Where a path starts. -/
def start (disk : Disk) (path : String) : List String :=
  if path.toList.head? = some '/' then [] else disk.working

/-- The names that lead from the root to where a path ends. -/
def place (disk : Disk) (path : String) : Except OsFault (List String) :=
  if path.isEmpty then .error .notFound
  else if path.toList.contains '\x00' then .error .nulByte
  else disk.root.resolve (disk.start path) (components path)

/-- What stands at a path. -/
def find (disk : Disk) (path : String) : Except OsFault Node :=
  match disk.place path with
  | .error fault => .error fault
  | .ok place =>
    match disk.root.at? place with
    | some node => .ok node
    | none => .error .notFound

/-- What stands at a path, if anything does. -/
def find? (disk : Disk) (path : String) : Option Node :=
  (disk.find path).toOption

/-- Puts a node under a name into the directory that names lead to. -/
def put (disk : Disk) (place : List String) (name : String) (node : Node) : Disk :=
  { disk with root := Node.put name node place disk.root }

/-- The directory that components lead to, which is to get an entry of the given name: the names
    that lead to it, and what it has under that name. -/
def slot (disk : Disk) (start front : List String) (name : String) :
    Except OsFault (List String × Option Node) :=
  match disk.root.resolve start front with
  | .error fault => .error fault
  | .ok place =>
    match disk.root.at? place with
    | some (.folder _) =>
      if 255 < name.utf8ByteSize then .error .nameTooLong
      else .ok (place, disk.root.at? (place ++ [name]))
    | some (.file _) => .error .notDirectory
    | none => .error .notFound

/-- Makes a directory, whose parent has to be there. -/
def makeFolder (disk : Disk) (start path : List String) : Except OsFault Disk :=
  match path.getLast? with
  | none => .error .notFound
  | some name =>
    if name = "." ∨ name = ".." then
      match disk.root.resolve start path with
      | .error fault => .error fault
      | .ok _ => .error .alreadyExists
    else
      match disk.slot start path.dropLast name with
      | .error fault => .error fault
      | .ok (_, some _) => .error .alreadyExists
      | .ok (place, none) => .ok (disk.put place name (.folder []))

/-- Whether components lead to a directory. -/
def isFolderAt (disk : Disk) (start path : List String) : Bool :=
  match disk.root.resolve start path with
  | .ok place => ((disk.root.at? place).map Node.isFolder).getD false
  | .error _ => false

/-- Makes a directory, given by its components in reverse, and those around it that are not there
    yet. -/
def makeFolders (disk : Disk) (start : List String) : List String → Except OsFault Unit × Disk
  | [] => (.ok (), disk)
  | last :: front =>
    let path := (last :: front).reverse
    match disk.makeFolder start path with
    | .ok disk => (.ok (), disk)
    | .error .notFound =>
      match disk.makeFolders start front with
      | (.error fault, disk) => (.error fault, disk)
      | (.ok (), disk) =>
        match disk.makeFolder start path with
        | .ok disk => (.ok (), disk)
        | .error fault =>
          if disk.isFolderAt start path then (.ok (), disk) else (.error fault, disk)
    | .error fault => if disk.isFolderAt start path then (.ok (), disk) else (.error fault, disk)

/-- Writes a file, whose parent has to be there. -/
def writeFile (disk : Disk) (path : String) (bytes : ByteArray) : Except OsFault Disk :=
  if path.isEmpty then .error .notFound
  else
    let parts := components path
    let slash := parts.getLast? = some "" ∧ parts.length ≠ 1
    let parts := if slash then (parts.reverse.dropWhile (· = "")).reverse else parts
    match parts.getLast? with
    | none => .error .isDirectory
    | some name =>
      if name = "." ∨ name = ".." then
        match disk.root.resolve (disk.start path) parts with
        | .error fault => .error fault
        | .ok _ => .error .isDirectory
      else
        match disk.slot (disk.start path) parts.dropLast name with
        | .error fault => .error fault
        | .ok (_, some (.folder _)) => .error .isDirectory
        | .ok (place, _) =>
          if slash then .error .isDirectory else .ok (disk.put place name (.file bytes))

/-- Writes a file, and makes the directories around it that are not there yet. -/
def save (disk : Disk) (path : String) (bytes : ByteArray) : Except OsFault Unit × Disk :=
  if path.toList.contains '\x00' then (.error .nulByte, disk)
  else
    let parent := parentComponents path
    match disk.makeFolders (disk.start path) (if parent.isEmpty then ["."] else parent).reverse with
    | (.error fault, disk) => (.error fault, disk)
    | (.ok (), disk) =>
      match disk.writeFile path bytes with
      | .error fault => (.error fault, disk)
      | .ok disk => (.ok (), disk)

end Disk

/-! ## 5. Listing -/

mutual

/-- All files below a node, with the components of their paths after `above`, whose last one comes
    first. -/
def Node.filesFrom (above : List String) : Node → List (List String × ByteArray)
  | .file bytes => [(above.reverse, bytes)]
  | .folder entries => filesOfEntries above entries

/-- All files below entries. -/
def filesOfEntries (above : List String) : List (String × Node) → List (List String × ByteArray)
  | [] => []
  | (name, node) :: entries => node.filesFrom (name :: above) ++ filesOfEntries above entries

end

/-- Whether one path stands before another: compared component by component. -/
def pathBefore : List String → List String → Bool
  | [], _ => true
  | _ :: _, [] => false
  | a :: as, b :: bs => if a = b then pathBefore as bs else a < b

/-- All files below a directory, in the order of their paths. -/
def Node.files (node : Node) : List (List String × ByteArray) :=
  (node.filesFrom []).mergeSort fun a b => pathBefore a.1 b.1

end Stagecraft.Shell
