/-!
# The tree of a script

Expressions and statements, with the lines that a mishap may have to name.
-/

namespace Stagecraft.Script

/-- Numbers have 64 bits: they lie below 2^63, and not below its opposite. -/
def numberBound : Nat := 0x8000000000000000

/-- Operators between two values. -/
inductive Operator where
  | add
  | subtract
  | multiply
  | divide
  | remainder
  | equal
  | unequal
  | less
  | lessOrEqual
  | greater
  | greaterOrEqual
  | both
  | either
deriving DecidableEq

/-- Expressions. -/
inductive Expr where
  | number (n : Int)
  | bool (b : Bool)
  | text (content : String)
  | variable (line : Nat) (name : String)
  | negate (line : Nat) (operand : Expr)
  | not (line : Nat) (operand : Expr)
  | binary (line : Nat) (operator : Operator) (left right : Expr)
  | call (line : Nat) (function : String) (arguments : List Expr)
  /-- A text with holes: the printed forms of its parts, one after the other. -/
  | joined (parts : List Expr)

/-- Statements. -/
inductive Statement where
  /-- Makes a new variable. -/
  | declare (line : Nat) (name : String) (value : Option Expr)
  | assign (line : Nat) (name : String) (value : Expr)
  /-- Combines the value of a variable with another one. -/
  | update (line : Nat) (name : String) (operator : Operator) (value : Expr)
  | evaluate (line : Nat) (value : Expr)
  | throw (line : Nat) (value : Option Expr)
  | block (line : Nat) (body : List Statement)
  | choose (line : Nat) (condition : Expr) (yes no : List Statement)
  | repeatWhile (line : Nat) (condition : Expr) (body : List Statement)
  | repeatForever (line : Nat) (body : List Statement)
  /-- Counts from one number to another, which is included or not. -/
  | count (line : Nat) (name : String) (low high : Expr) (inclusive : Bool)
      (body : List Statement)
  | leave (line : Nat)
  | next (line : Nat)

/-- The mark of an operator. -/
def Operator.mark : Operator → String
  | add => "+"
  | subtract => "-"
  | multiply => "*"
  | divide => "/"
  | remainder => "%"
  | equal => "=="
  | unequal => "!="
  | less => "<"
  | lessOrEqual => "<="
  | greater => ">"
  | greaterOrEqual => ">="
  | both => "&&"
  | either => "||"

/-- All operators. -/
def Operator.all : List Operator :=
  [add, subtract, multiply, divide, remainder, equal, unequal, less, lessOrEqual, greater,
   greaterOrEqual, both, either]

/-- How tightly an operator binds. -/
def Operator.strength : Operator → Nat
  | either => 30
  | both => 60
  | equal | unequal => 90
  | less | lessOrEqual | greater | greaterOrEqual => 130
  | add | subtract => 150
  | multiply | divide | remainder => 180

end Stagecraft.Script
