/-!
# Command lines

`Command.ofArguments?` understands the arguments of the program: the name of a command and its
options. An option is written `--name value` or `--name=value`; a value of its own does not start
with a hyphen, the single hyphen apart. An option may be given once, only `--existing` any number
of times. A last argument `--` is passed over. Everything else is a mistake of usage.
-/

namespace Stagecraft.Shell

/-- What the program is asked to do. -/
inductive Command where
  /-- Print the flattened text and its source map. -/
  | flatten (program : String)
  /-- Run the program, and lead an error back to its handler. -/
  | run (program : String) (maxOperations : Option Nat)
  /-- Judge a name for an actor. -/
  | checkName (name : String) (existing : List String)
  /-- Write a new program that holds only a stage. -/
  | new (name : Option String) (out : String)
  /-- Load and verify every program file in a directory. -/
  | check (directory : String)
deriving DecidableEq

/-- The options of a command line with their values, in order. -/
abbrev Given := List (String × String)

/-- Takes an option apart: its name after the two hyphens, and the value after the first equals
    sign if there is one. -/
def splitOption (argument : List Char) : String × Option String :=
  match argument.dropWhile (· ≠ '=') with
  | [] => (String.ofList argument, none)
  | _ :: value => (String.ofList (argument.takeWhile (· ≠ '=')), some (String.ofList value))

/-- Whether an argument may be the value of the option before it. -/
def isValue (argument : String) : Bool :=
  argument == "-" || argument.toList.head? != some '-'

/-- The options that arguments give, if all of their names are in `known`. -/
def optionsOf (known : List String) : List String → Option Given
  | [] => some []
  | argument :: more =>
    match argument.toList with
    | ['-', '-'] => if more.isEmpty then some [] else none
    | '-' :: '-' :: option =>
      let (name, value) := splitOption option
      if known.contains name then
        match value, more with
        | some value, more => ((name, value) :: ·) <$> optionsOf known more
        | none, value :: more =>
          if isValue value then ((name, value) :: ·) <$> optionsOf known more else none
        | none, [] => none
      else none
    | _ => none

namespace Given

/-- All values of an option. -/
def all (given : Given) (name : String) : List String :=
  given.filterMap fun (other, value) => if other = name then some value else none

/-- The value of an option that may be given once: `none` if it is given more often. -/
def optional (given : Given) (name : String) : Option (Option String) :=
  match given.all name with
  | [] => some none
  | [value] => some (some value)
  | _ => none

/-- The value of an option that has to be given once. -/
def required (given : Given) (name : String) : Option String :=
  match given.all name with
  | [value] => some value
  | _ => none

end Given

/-- The number that digits write. -/
def numberOf? (digits : List Char) : Option Nat :=
  if digits.isEmpty || !digits.all Char.isDigit then none
  else some (digits.foldl (fun n c => 10 * n + (c.toNat - 48)) 0)

/-- A number of 64 bits, with or without a plus sign. -/
def sizeOf? (text : String) : Option Nat :=
  let digits :=
    match text.toList with
    | '+' :: digits => digits
    | digits => digits
  (numberOf? digits).filter (· < 0x10000000000000000)

/-- A number that may be left out: `none` if it is no number of 64 bits. -/
def optionalSize : Option String → Option (Option Nat)
  | none => some none
  | some text => some <$> sizeOf? text

/-- The command that arguments ask for, `none` if they are a mistake of usage. -/
def Command.ofArguments? : List String → Option Command
  | "flatten" :: more => do
    let given ← optionsOf ["program"] more
    let program ← given.required "program"
    pure (.flatten program)
  | "run" :: more => do
    let given ← optionsOf ["program", "max-operations"] more
    let program ← given.required "program"
    let limit ← optionalSize (← given.optional "max-operations")
    pure (.run program limit)
  | "check-name" :: more => do
    let given ← optionsOf ["name", "existing"] more
    let name ← given.required "name"
    pure (.checkName name (given.all "existing"))
  | "new" :: more => do
    let given ← optionsOf ["name", "out"] more
    let name ← given.optional "name"
    let out ← given.required "out"
    pure (.new name out)
  | "check" :: more => do
    let given ← optionsOf ["programs-dir"] more
    let directory ← given.required "programs-dir"
    pure (.check directory)
  | _ => none

end Stagecraft.Shell
