import Stagecraft.Script.Token
import Stagecraft.Script.Tree

/-!
# Reading a script

`parse` makes the tree of a script from its tokens, or reports the first place where it cannot go
on. A statement ends with a semicolon; the last one of a block need not, nor one that ends in a
block itself.

With strict variables, a variable may only be named where a declaration before it in the text
makes it visible: one in the same block or in a block around it. The names that are visible are
carried along, the innermost first.

Every call passes on less fuel than it has; the fuel at the start is a multiple of the number of
tokens that the longest chain of calls per token does not use up.
-/

namespace Stagecraft.Script

/-! ## 1. State -/

/-- Where reading stands: the tokens to come, and the visible variables. -/
structure Ahead where
  tokens : List Placed
  visible : List String

/-- A mishap on a line. -/
def Mishap.on (line : Nat) (cause : Cause) : Mishap := ⟨cause, some line⟩

namespace Ahead

/-- The next token. -/
def peek (ahead : Ahead) : Placed :=
  ahead.tokens.headD ⟨.ending, 1⟩

/-- Takes the next token. -/
def drop (ahead : Ahead) : Ahead :=
  { ahead with tokens := ahead.tokens.tail }

/-- Whether the next token is the given mark. -/
def isMark (ahead : Ahead) (symbol : String) : Bool :=
  ahead.peek.token = .mark symbol

/-- Whether the next token is the given word. -/
def isWord (ahead : Ahead) (name : String) : Bool :=
  ahead.peek.token = .word name

/-- Makes a variable visible. -/
def declare (ahead : Ahead) (name : String) : Ahead :=
  { ahead with visible := name :: ahead.visible }

/-- Forgets the variables that were made visible since `before`. -/
def leaveScope (ahead : Ahead) (before : Ahead) : Ahead :=
  { ahead with visible := before.visible }

/-- The mishap of a token that may not stand here. -/
def refuse (ahead : Ahead) : Mishap :=
  match ahead.peek.token with
  | .fault cause => Mishap.on ahead.peek.line cause
  | .ending => Mishap.on ahead.peek.line .incomplete
  | token => Mishap.on ahead.peek.line (.unexpected token.symbol)

/-- The mishap of finding no `symbol` here. -/
def lack (ahead : Ahead) (symbol purpose : String) : Mishap :=
  match ahead.peek.token with
  | .fault cause => Mishap.on ahead.peek.line cause
  | _ => Mishap.on ahead.peek.line (.expecting symbol purpose)

/-- Takes the given mark. -/
def expect (ahead : Ahead) (symbol purpose : String) : Except Mishap Ahead :=
  if ahead.isMark symbol then .ok ahead.drop else .error (ahead.lack symbol purpose)

end Ahead

/-- Words that are no names of variables. -/
def keywords : List String :=
  ["true", "false", "let", "const", "if", "else", "while", "loop", "for", "in", "break",
   "continue", "throw", "return", "fn", "switch", "do", "until", "try", "catch", "import", "export",
   "as", "this", "global", "private"]

/-- The operator between two values that a token is. -/
def operatorOf? : Token → Option Operator
  | .mark symbol => Operator.all.find? (·.mark == symbol)
  | _ => none

/-- The operator that a combining assignment applies. -/
def updateOf? : Token → Option Operator
  | .mark "+=" => some .add
  | .mark "-=" => some .subtract
  | .mark "*=" => some .multiply
  | .mark "/=" => some .divide
  | .mark "%=" => some .remainder
  | _ => none

/-- The digits of a number without the marks between them. -/
def numberOf (digits : String) : Nat :=
  digits.foldl (fun n c => if c.isDigit then 10 * n + (c.toNat - 48) else n) 0

/-- A number that has to lie below `bound`. -/
def smallNumber (digits : String) (line bound : Nat) : Except Mishap Nat :=
  if numberOf digits < bound then .ok (numberOf digits)
  else .error (Mishap.on line (.badNumber digits))

/-- A name that is no keyword. -/
def takeName (ahead : Ahead) : Except Mishap (String × Ahead) :=
  match ahead.peek.token with
  | .word name =>
    if keywords.contains name then .error (Mishap.on ahead.peek.line .variableExpected)
    else .ok (name, ahead.drop)
  | .fault cause => .error (Mishap.on ahead.peek.line cause)
  | _ => .error (Mishap.on ahead.peek.line .variableExpected)

/-! ## 2. Expressions -/

mutual

/-- A value, a variable, a call, or an expression in brackets. -/
def parseOperand (strict : Bool) : Nat → Ahead → Except Mishap (Expr × Ahead)
  | 0, ahead => .error (Mishap.on ahead.peek.line .incomplete)
  | fuel + 1, ahead => do
    let line := ahead.peek.line
    match ahead.peek.token with
    | .number digits =>
      let n ← smallNumber digits line numberBound
      pure (.number n, ahead.drop)
    | .text content => pure (.text content, ahead.drop)
    | .opening content =>
      let (parts, ahead) ← parseHoles strict fuel ahead.drop
      pure (.joined (.text content :: parts), ahead)
    | .mark "(" =>
      let (inner, ahead) ← parseExpr strict fuel 0 ahead.drop
      let ahead ← ahead.expect ")" "for a matching ( in this expression"
      pure (inner, ahead)
    | .mark "-" => parseNegative strict fuel line ahead.drop
    | .mark "!" =>
      let (operand, ahead) ← parseOperand strict fuel ahead.drop
      pure (.not line operand, ahead)
    | .word "true" => pure (.bool true, ahead.drop)
    | .word "false" => pure (.bool false, ahead.drop)
    | .word name =>
      if keywords.contains name then .error ahead.refuse
      else if ahead.drop.isMark "(" then
        let (arguments, ahead) ← parseArguments strict fuel name ahead.drop.drop
        pure (.call line name arguments, ahead)
      else if strict && !ahead.visible.contains name then
        .error (Mishap.on line (.undefinedVariable name))
      else pure (.variable line name, ahead.drop)
    | _ => .error ahead.refuse

/-- What follows a minus sign. The least number is written with a sign only. -/
def parseNegative (strict : Bool) : Nat → Nat → Ahead → Except Mishap (Expr × Ahead)
  | 0, _, ahead => .error (Mishap.on ahead.peek.line .incomplete)
  | fuel + 1, line, ahead => do
    match ahead.peek.token with
    | .number digits =>
      let n ← smallNumber digits ahead.peek.line (numberBound + 1)
      pure (.number (-(n : Int)), ahead.drop)
    | _ =>
      let (operand, ahead) ← parseOperand strict fuel ahead
      pure (.negate line operand, ahead)

/-- The parts of a text after its first piece. -/
def parseHoles (strict : Bool) : Nat → Ahead → Except Mishap (List Expr × Ahead)
  | 0, ahead => .error (Mishap.on ahead.peek.line .incomplete)
  | fuel + 1, ahead => do
    let (inner, ahead) ← parseExpr strict fuel 0 ahead
    match ahead.peek.token with
    | .closing content => pure ([inner, .text content], ahead.drop)
    | .between content =>
      let (parts, ahead) ← parseHoles strict fuel ahead.drop
      pure (inner :: .text content :: parts, ahead)
    | _ => .error ahead.refuse

/-- The arguments of a call up to the closing bracket. -/
def parseArguments (strict : Bool) : Nat → String → Ahead → Except Mishap (List Expr × Ahead)
  | 0, _, ahead => .error (Mishap.on ahead.peek.line .incomplete)
  | fuel + 1, name, ahead => do
    if ahead.isMark ")" then pure ([], ahead.drop)
    else
      let (argument, ahead) ← parseExpr strict fuel 0 ahead
      if ahead.isMark ")" then pure ([argument], ahead.drop)
      else if ahead.isMark "," then
        let (arguments, ahead) ← parseArguments strict fuel name ahead.drop
        pure (argument :: arguments, ahead)
      else if ahead.peek.token = .ending then
        .error (ahead.lack ")" s!"to close the arguments list of this function call '{name}'")
      else .error (ahead.lack "," s!"to separate the arguments to function call '{name}'")

/-- An expression whose operators bind at least as tightly as `least`. -/
def parseExpr (strict : Bool) : Nat → Nat → Ahead → Except Mishap (Expr × Ahead)
  | 0, _, ahead => .error (Mishap.on ahead.peek.line .incomplete)
  | fuel + 1, least, ahead => do
    let (left, ahead) ← parseOperand strict fuel ahead
    parseMore strict fuel least left ahead

/-- The operators and operands that follow `left`. -/
def parseMore (strict : Bool) : Nat → Nat → Expr → Ahead → Except Mishap (Expr × Ahead)
  | 0, _, _, ahead => .error (Mishap.on ahead.peek.line .incomplete)
  | fuel + 1, least, left, ahead => do
    match operatorOf? ahead.peek.token with
    | none => pure (left, ahead)
    | some operator =>
      if operator.strength < least then pure (left, ahead)
      else
        let line := ahead.peek.line
        let (right, ahead) ← parseExpr strict fuel (operator.strength + 1) ahead.drop
        parseMore strict fuel least (.binary line operator left right) ahead

end

/-! ## 3. Statements -/

/-- Whether a statement ends without a semicolon. -/
def Statement.endsItself : Statement → Bool
  | block .. | choose .. | repeatWhile .. | repeatForever .. | count .. => true
  | _ => false

/-- The statement that an expression starts: an assignment or the expression alone. -/
def parseAssignment (strict : Bool) (fuel : Nat) (line : Nat) (ahead : Ahead) :
    Except Mishap (Statement × Ahead) := do
  let (left, ahead) ← parseExpr strict fuel 0 ahead
  match left with
  | .variable place name =>
    if ahead.isMark "=" then
      let (value, ahead) ← parseExpr strict fuel 0 ahead.drop
      pure (.assign place name value, ahead)
    else
      match updateOf? ahead.peek.token with
      | some operator =>
        let (value, ahead) ← parseExpr strict fuel 0 ahead.drop
        pure (.update place name operator value, ahead)
      | none => pure (.evaluate line left, ahead)
  | _ => pure (.evaluate line left, ahead)

/-- A declaration, after its first word. -/
def parseDeclaration (strict : Bool) (fuel : Nat) (line : Nat) (ahead : Ahead) :
    Except Mishap (Statement × Ahead) := do
  let (name, ahead) ← takeName ahead
  if ahead.isMark "=" then
    let (value, ahead) ← parseExpr strict fuel 0 ahead.drop
    pure (.declare line name (some value), ahead.declare name)
  else pure (.declare line name none, ahead.declare name)

/-- What is thrown, after the first word. -/
def parseThrow (strict : Bool) (fuel : Nat) (line : Nat) (ahead : Ahead) :
    Except Mishap (Statement × Ahead) := do
  if ahead.isMark ";" || ahead.isMark "\x7d" || ahead.peek.token = .ending then
    pure (.throw line none, ahead)
  else
    let (value, ahead) ← parseExpr strict fuel 0 ahead
    pure (.throw line (some value), ahead)

/-- A statement that leaves a loop or goes on to its next round. -/
def parseLeaving (inLoop : Bool) (statement : Statement) (line : Nat) (ahead : Ahead) :
    Except Mishap (Statement × Ahead) :=
  if inLoop then .ok (statement, ahead) else .error (Mishap.on line .outsideLoop)

/-- Takes what ends a statement inside a block: nothing before the closing brace, and nothing after
    a statement that ends itself. -/
def endStatement (statement : Statement) (ahead : Ahead) : Except Mishap Ahead :=
  if statement.endsItself then .ok ahead
  else ahead.expect ";" "to terminate this statement"

mutual

/-- A statement, `none` for an empty one. -/
def parseStatement (strict : Bool) : Nat → Bool → Ahead → Except Mishap (Option Statement × Ahead)
  | 0, _, ahead => .error (Mishap.on ahead.peek.line .incomplete)
  | fuel + 1, inLoop, ahead => do
    let line := ahead.peek.line
    match ahead.peek.token with
    | .mark ";" => pure (none, ahead.drop)
    | .mark "\x7b" =>
      let (body, ahead) ← parseBlock strict fuel inLoop ahead
      pure (some (.block line body), ahead)
    | .word "let" =>
      let (statement, ahead) ← parseDeclaration strict fuel line ahead.drop
      pure (some statement, ahead)
    | .word "if" =>
      let (statement, ahead) ← parseChoice strict fuel inLoop line ahead.drop
      pure (some statement, ahead)
    | .word "while" =>
      let (condition, ahead) ← parseExpr strict fuel 0 ahead.drop
      let (body, ahead) ← parseBlock strict fuel true ahead
      pure (some (.repeatWhile line condition body), ahead)
    | .word "loop" =>
      let (body, ahead) ← parseBlock strict fuel true ahead.drop
      pure (some (.repeatForever line body), ahead)
    | .word "for" =>
      let (statement, ahead) ← parseCount strict fuel line ahead.drop
      pure (some statement, ahead)
    | .word "break" =>
      let (statement, ahead) ← parseLeaving inLoop (.leave line) line ahead.drop
      pure (some statement, ahead)
    | .word "continue" =>
      let (statement, ahead) ← parseLeaving inLoop (.next line) line ahead.drop
      pure (some statement, ahead)
    | .word "throw" =>
      let (statement, ahead) ← parseThrow strict fuel line ahead.drop
      pure (some statement, ahead)
    | _ =>
      let (statement, ahead) ← parseAssignment strict fuel line ahead
      pure (some statement, ahead)

/-- A choice, after its first word. -/
def parseChoice (strict : Bool) : Nat → Bool → Nat → Ahead → Except Mishap (Statement × Ahead)
  | 0, _, _, ahead => .error (Mishap.on ahead.peek.line .incomplete)
  | fuel + 1, inLoop, line, ahead => do
    let (condition, ahead) ← parseExpr strict fuel 0 ahead
    let (yes, ahead) ← parseBlock strict fuel inLoop ahead
    if ahead.isWord "else" then
      let ahead := ahead.drop
      if ahead.isWord "if" then
        let (no, ahead) ← parseChoice strict fuel inLoop ahead.peek.line ahead.drop
        pure (.choose line condition yes [no], ahead)
      else
        let (no, ahead) ← parseBlock strict fuel inLoop ahead
        pure (.choose line condition yes no, ahead)
    else pure (.choose line condition yes [], ahead)

/-- A counting loop, after its first word. The variable is visible in the body. -/
def parseCount (strict : Bool) : Nat → Nat → Ahead → Except Mishap (Statement × Ahead)
  | 0, _, ahead => .error (Mishap.on ahead.peek.line .incomplete)
  | fuel + 1, line, ahead => do
    let (name, ahead) ← takeName ahead
    if ahead.isWord "in" then
      let (low, ahead) ← parseExpr strict fuel 0 ahead.drop
      let inclusive := ahead.isMark "..="
      if inclusive || ahead.isMark ".." then
        let (high, ahead) ← parseExpr strict fuel 0 ahead.drop
        let (body, after) ← parseBlock strict fuel true (ahead.declare name)
        pure (.count line name low high inclusive body, after.leaveScope ahead)
      else .error (Mishap.on line .notIterable)
    else .error (ahead.lack "in" "after the iteration variable")

/-- A block with its braces. Its variables are visible up to its end. -/
def parseBlock (strict : Bool) : Nat → Bool → Ahead → Except Mishap (List Statement × Ahead)
  | 0, _, ahead => .error (Mishap.on ahead.peek.line .incomplete)
  | fuel + 1, inLoop, ahead => do
    let inner ← ahead.expect "\x7b" "to start a statement block"
    let (body, after) ← parseBody strict fuel inLoop inner
    pure (body, after.leaveScope ahead)

/-- The statements of a block, and its closing brace. -/
def parseBody (strict : Bool) : Nat → Bool → Ahead → Except Mishap (List Statement × Ahead)
  | 0, _, ahead => .error (Mishap.on ahead.peek.line .incomplete)
  | fuel + 1, inLoop, ahead => do
    if ahead.isMark "\x7d" then pure ([], ahead.drop)
    else if ahead.peek.token = .ending then
      .error (ahead.lack "\x7d" "to terminate this block")
    else
      let (statement, ahead) ← parseStatement strict fuel inLoop ahead
      match statement with
      | none => parseBody strict fuel inLoop ahead
      | some statement =>
        if ahead.isMark "\x7d" then pure ([statement], ahead.drop)
        else
          let ahead ← endStatement statement ahead
          let (body, ahead) ← parseBody strict fuel inLoop ahead
          pure (statement :: body, ahead)

end

/-- The statements up to the end of the script. -/
def parseAll (strict : Bool) : Nat → Ahead → Except Mishap (List Statement)
  | 0, ahead => .error (Mishap.on ahead.peek.line .incomplete)
  | fuel + 1, ahead => do
    if ahead.peek.token = .ending then pure []
    else
      let (statement, ahead) ← parseStatement strict fuel false ahead
      match statement with
      | none => parseAll strict fuel ahead
      | some statement =>
        if ahead.peek.token = .ending then pure [statement]
        else
          let ahead ← endStatement statement ahead
          let body ← parseAll strict fuel ahead
          pure (statement :: body)

/-- The tree of a script. -/
def parse (strict : Bool) (script : String) : Except Mishap (List Statement) :=
  let placed := tokens script
  parseAll strict (8 * placed.length + 8) ⟨placed, []⟩

end Stagecraft.Script
