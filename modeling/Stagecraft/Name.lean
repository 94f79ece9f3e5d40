import Stagecraft.Text.Classes

/-!
# Actor names

An actor's name becomes an identifier of the program that runs, so it is a letter or underscore
followed by letters, digits and underscores, all ASCII; it is no reserved word of the language,
and no other actor has it. `Name.fault?` reports the first rule that a candidate breaks, in the
order of the constructors of `NameFault`.
-/

namespace Stagecraft

/-- Why a text cannot be an actor's name. -/
inductive NameFault where
  | empty
  | startsWithDigit
  | holdsSpace
  | notIdentifier
  | reserved (name : String)
  | taken (name : String)
deriving DecidableEq

namespace NameFault

/-- The reason in words. -/
def message : NameFault → String
  | empty => "The name cannot be empty."
  | startsWithDigit => "The name cannot start with a digit."
  | holdsSpace => "The name cannot contain spaces."
  | notIdentifier =>
    "The name can only contain letters, digits and underscores, " ++
      "and must start with a letter or underscore."
  | reserved name => s!"\"{name}\" is a reserved word of the language and cannot be used as a name."
  | taken name => s!"There is already an actor called \"{name}\"."

end NameFault

namespace Name

/-! ## 1. Identifiers and reserved words -/

/-- An ASCII letter or an underscore. -/
def isInitial (c : Char) : Bool :=
  c.isAlpha || c = '_'

/-- An ASCII letter or digit or an underscore. -/
def isInner (c : Char) : Bool :=
  c.isAlphanum || c = '_'

/-- Whether the characters are an identifier of the language. -/
def isIdentifier : List Char → Bool
  | [] => false
  | c :: cs => isInitial c && cs.all isInner

/-- The keywords and reserved symbols of the language in which a program runs. -/
def reservedWords : List String :=
  ["true", "false", "let", "const", "if", "else", "switch", "do", "while", "until", "loop",
   "for", "in", "continue", "break", "return", "throw", "try", "catch", "import", "export",
   "as", "global", "private", "fn", "this", "Fn", "call", "curry", "is_shared", "is_def_fn",
   "is_def_var", "type_of", "print", "debug", "eval", "var", "static", "is", "goto", "exit",
   "match", "case", "public", "protected", "new", "use", "with", "module", "package", "super",
   "thread", "spawn", "go", "await", "async", "sync", "yield", "default", "void", "null", "nil",
   "shared"]

/-- Whether a text is a reserved word. -/
def isReserved (name : String) : Bool :=
  reservedWords.contains name

/-! ## 2. Assessment -/

/-- What keeps characters from being an identifier, given that they are none. -/
def shapeFault (cs : List Char) : NameFault :=
  if (cs.head?.map Char.isDigit).getD false then .startsWithDigit
  else if cs.any Text.isBlank then .holdsSpace
  else .notIdentifier

/-- The first rule that `name` breaks as a new name beside the names in `taken`; `none` if it may
    be used. -/
def fault? (taken : List String) (name : String) : Option NameFault :=
  if name.toList.all Text.isBlank then some .empty
  else if !isIdentifier name.toList then some (shapeFault name.toList)
  else if isReserved name then some (.reserved name)
  else if taken.contains name then some (.taken name)
  else none

end Name

end Stagecraft
