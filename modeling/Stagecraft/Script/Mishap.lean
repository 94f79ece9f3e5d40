/-!
# What can go wrong with a script

A mishap has a cause and, mostly, a line. Causes found while the text is read are called syntax
errors in their messages. A plain arithmetic operator does not know its line.
-/

namespace Stagecraft.Script

/-- An arithmetic operation that has no result. -/
inductive Arithmetic where
  | addition
  | subtraction
  | multiplication
  | division
  | divisionByZero
  | modulo
  | negation
deriving DecidableEq

/-- Why a script fails. -/
inductive Cause where
  /-- A token where none of its kind may stand. -/
  | unexpected (token : String)
  /-- Another token was needed. -/
  | expecting (token : String) (purpose : String)
  | variableExpected
  | openString
  | badEscape (escape : String)
  | badNumber (digits : String)
  | outsideLoop
  | incomplete
  /-- A variable that no declaration before it in the text makes visible. -/
  | undefinedVariable (name : String)
  /-- A variable that does not exist when it is needed. -/
  | unknownVariable (name : String)
  | unknownFunction (signature : String)
  | wrongType (found : String) (expected : String)
  | notIterable
  | thrown (text : String)
  | arithmetic (operation : Arithmetic) (left right : Int)
  | tooManyOperations
deriving DecidableEq

/-- A failure of a script. -/
structure Mishap where
  cause : Cause
  line : Option Nat
deriving DecidableEq

/-- An operation without result in words. -/
def Arithmetic.describe (left right : Int) : Arithmetic → String
  | addition => s!"Addition overflow: {left} + {right}"
  | subtraction => s!"Subtraction overflow: {left} - {right}"
  | multiplication => s!"Multiplication overflow: {left} * {right}"
  | division => s!"Division overflow: {left} / {right}"
  | divisionByZero => s!"Division by zero: {left} / {right}"
  | modulo => s!"Modulo division by zero or overflow: {left} % {right}"
  | negation => s!"Negation overflow: -{left}"

/-- A cause in words. -/
def Cause.message : Cause → String
  | unexpected token => s!"Syntax error: Unexpected '{token}'"
  | expecting token purpose => s!"Syntax error: Expecting '{token}' {purpose}"
  | variableExpected => "Syntax error: Expecting name of a variable"
  | openString => "Syntax error: Open string is not terminated"
  | badEscape escape => s!"Syntax error: Invalid escape sequence: '{escape}'"
  | badNumber digits => s!"Syntax error: Invalid number: '{digits}'"
  | outsideLoop => "Syntax error: Break statement should only be used inside a loop"
  | incomplete => "Syntax error: Script is incomplete"
  | undefinedVariable name => s!"Syntax error: Undefined variable: {name}"
  | unknownVariable name => s!"Variable not found: {name}"
  | unknownFunction signature => s!"Function not found: {signature}"
  | wrongType found expected => s!"Data type incorrect: {found} (expecting {expected})"
  | notIterable => "For loop expects iterable type"
  | thrown text => if text.isEmpty then "Runtime error" else s!"Runtime error: {text}"
  | arithmetic operation left right => operation.describe left right
  | tooManyOperations => "Too many operations"

end Stagecraft.Script
