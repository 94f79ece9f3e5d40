import Stagecraft.Script.Parser

/-!
# Running a script

Values are numbers of 64 bits, truth values, texts, and the unit of a statement without value. A
run keeps the variables, the lines that were printed, and how many operations are left: every
statement and every expression is one. The tree is gone through by recursion on the tree itself;
a loop goes on while operations are left, and each of its rounds takes one at least.
-/

namespace Stagecraft.Script

/-! ## 1. Values -/

/-- Values of a script. -/
inductive Value where
  | unit
  | number (n : Int)
  | bool (b : Bool)
  | text (content : String)
deriving DecidableEq

namespace Value

/-- The printed form of a value. -/
def printed : Value → String
  | unit => ""
  | number n => toString n
  | bool b => if b then "true" else "false"
  | text content => content

/-- The type of a value, as in the signature of a function. -/
def typeName : Value → String
  | unit => "()"
  | number _ => "i64"
  | bool _ => "bool"
  | text _ => "&str | ImmutableString | String"

end Value

/-- A function with the types of its arguments. -/
def signature (function : String) (arguments : List Value) : String :=
  s!"{function} (" ++ String.intercalate ", " (arguments.map Value.typeName) ++ ")"

/-- Whether a number has 64 bits. -/
def fits (n : Int) : Bool :=
  -(numberBound : Int) ≤ n && n < numberBound

/-- What an operation gives: a value, an arithmetic failure, or nothing if there is no such
    operation on its operands. -/
inductive Outcome where
  | value (v : Value)
  | failed (operation : Arithmetic) (left right : Int)
  | absent

/-- The result of an operation, if it has 64 bits. -/
def checked (operation : Arithmetic) (left right result : Int) : Outcome :=
  if fits result then .value (.number result) else .failed operation left right

/-- An operation on numbers. Quotients are cut off toward zero, and a remainder has the sign of
    the left operand. -/
def Operator.onNumbers (left right : Int) : Operator → Outcome
  | .add => checked .addition left right (left + right)
  | .subtract => checked .subtraction left right (left - right)
  | .multiply => checked .multiplication left right (left * right)
  | .divide =>
    if right = 0 then .failed .divisionByZero left right
    else checked .division left right (left.tdiv right)
  | .remainder =>
    if right = 0 ∨ !fits (left.tdiv right) then .failed .modulo left right
    else .value (.number (left.tmod right))
  | .equal => .value (.bool (left = right))
  | .unequal => .value (.bool (left ≠ right))
  | .less => .value (.bool (left < right))
  | .lessOrEqual => .value (.bool (left ≤ right))
  | .greater => .value (.bool (right < left))
  | .greaterOrEqual => .value (.bool (right ≤ left))
  | .both => .absent
  | .either => .absent

/-- An operation on texts. -/
def Operator.onTexts (left right : String) : Operator → Outcome
  | .add => .value (.text (left ++ right))
  | .equal => .value (.bool (left = right))
  | .unequal => .value (.bool (left ≠ right))
  | .less => .value (.bool (left < right))
  | .lessOrEqual => .value (.bool (!(right < left)))
  | .greater => .value (.bool (right < left))
  | .greaterOrEqual => .value (.bool (!(left < right)))
  | _ => .absent

/-- An operation on values that are not both numbers or both texts. A text takes up the printed
    form of anything; values of different types are never equal, nor in any order. -/
def Operator.onOthers (left right : Value) : Operator → Outcome
  | .add =>
    match left, right with
    | .text content, other => .value (.text (content ++ other.printed))
    | other, .text content => .value (.text (other.printed ++ content))
    | _, _ => .absent
  | .equal => .value (.bool (left = right))
  | .unequal => .value (.bool (left ≠ right))
  | .less | .lessOrEqual | .greater | .greaterOrEqual => .value (.bool false)
  | _ => .absent

/-- An operation on two values. -/
def Operator.apply (operator : Operator) (left right : Value) : Outcome :=
  match left, right with
  | .number m, .number n => operator.onNumbers m n
  | .text s, .text t => operator.onTexts s t
  | left, right => operator.onOthers left right

/-! ## 2. State -/

/-- The state of a run. -/
structure State where
  /-- The variables with their values, the newest first. -/
  bindings : List (String × Value)
  /-- The printed lines, the last one first. -/
  lines : List String
  /-- How many operations are left. -/
  left : Nat

/-- How a statement ends. -/
inductive Flow where
  | done
  | left
  | next
  | failed (mishap : Mishap)

namespace State

/-- Takes one operation, if there is one. -/
def charge? (state : State) : Option State :=
  match state.left with
  | 0 => none
  | left + 1 => some { state with left := left }

/-- Makes a new variable. -/
def declare (state : State) (name : String) (value : Value) : State :=
  { state with bindings := (name, value) :: state.bindings }

/-- Gives the newest variable of a name another value. -/
def assignIn (name : String) (value : Value) : List (String × Value) → List (String × Value)
  | [] => []
  | (other, old) :: more =>
    if other = name then (other, value) :: more else (other, old) :: assignIn name value more

/-- Gives a variable another value. -/
def assign (state : State) (name : String) (value : Value) : State :=
  { state with bindings := assignIn name value state.bindings }

/-- Forgets all variables but the oldest `count`. -/
def keep (state : State) (count : Nat) : State :=
  { state with bindings := state.bindings.drop (state.bindings.length - count) }

/-- Prints a line. -/
def print (state : State) (line : String) : State :=
  { state with lines := line :: state.lines }

end State

/-- What evaluation gives. -/
abbrev Evaluated (α : Type) := Except Mishap α × State

/-- Goes on with the value of an evaluation. -/
def andThen {α β : Type} (result : Evaluated α) (next : α → State → Evaluated β) : Evaluated β :=
  match result with
  | (.ok x, state) => next x state
  | (.error mishap, state) => (.error mishap, state)

/-! ## 3. Expressions -/

/-- The truth value that an operand of a condition has to be. -/
def asBool (line : Nat) : Value → Except Mishap Bool
  | .bool b => .ok b
  | other => .error (Mishap.on line (.wrongType other.typeName "bool"))

/-- Applies an operator; `failLine` is the line of an arithmetic failure. -/
def combine (line : Nat) (failLine : Option Nat) (operator : Operator) (left right : Value) :
    Except Mishap Value :=
  match operator.apply left right with
  | .value v => .ok v
  | .failed operation m n => .error ⟨.arithmetic operation m n, failLine⟩
  | .absent =>
    .error (Mishap.on line (.unknownFunction (signature operator.mark [left, right])))

/-- Calls a function. Only printing is known. -/
def callFunction (line : Nat) (function : String) (arguments : List Value) (state : State) :
    Evaluated Value :=
  match function, arguments with
  | "print", [] => (.ok .unit, state.print "")
  | "print", [value] => (.ok .unit, state.print value.printed)
  | _, _ => (.error (Mishap.on line (.unknownFunction (signature function arguments))), state)

/-- The opposite of a value. -/
def negateValue (line : Nat) : Value → Except Mishap Value
  | .number n =>
    if fits (-n) then .ok (.number (-n))
    else .error (Mishap.on line (.arithmetic .negation n 0))
  | other => .error (Mishap.on line (.unknownFunction (signature "-" [other])))

/-- The denial of a value. -/
def denyValue (line : Nat) : Value → Except Mishap Value
  | .bool b => .ok (.bool !b)
  | other => .error (Mishap.on line (.unknownFunction (signature "!" [other])))

/-- The line of an expression, if it has one. -/
def Expr.line? : Expr → Option Nat
  | .variable line _ => some line
  | .negate line _ => some line
  | .not line _ => some line
  | .binary line _ _ _ => some line
  | .call line _ _ => some line
  | _ => none

mutual

/-- Evaluates an expression that stands in a statement on line `line`. -/
def Expr.eval (line : Nat) (state : State) : Expr → Evaluated Value
  | .number n => (.ok (.number n), state)
  | .bool b => (.ok (.bool b), state)
  | .text content => (.ok (.text content), state)
  | .variable place name =>
    match state.charge? with
    | none => (.error (Mishap.on place .tooManyOperations), state)
    | some state =>
      match state.bindings.lookup name with
      | some value => (.ok value, state)
      | none => (.error (Mishap.on place (.unknownVariable name)), state)
  | .negate place operand =>
    andThen (operand.eval line state) fun v state => (negateValue place v, state)
  | .not place operand =>
    andThen (operand.eval line state) fun v state => (denyValue place v, state)
  | .binary place operator left right =>
    match state.charge? with
    | none => (.error (Mishap.on place .tooManyOperations), state)
    | some state =>
      andThen (left.eval line state) fun v state =>
        match operator with
        | .both =>
          match asBool place v with
          | .error mishap => (.error mishap, state)
          | .ok false => (.ok (.bool false), state)
          | .ok true =>
            andThen (right.eval line state) fun w state => (Value.bool <$> asBool place w, state)
        | .either =>
          match asBool place v with
          | .error mishap => (.error mishap, state)
          | .ok true => (.ok (.bool true), state)
          | .ok false =>
            andThen (right.eval line state) fun w state => (Value.bool <$> asBool place w, state)
        | operator =>
          andThen (right.eval line state) fun w state =>
            (combine place none operator v w, state)
  | .call place function arguments =>
    match state.charge? with
    | none => (.error (Mishap.on place .tooManyOperations), state)
    | some state =>
      andThen (evalAll line state arguments) fun values state =>
        callFunction place function values state
  | .joined parts =>
    andThen (evalAll line state parts) fun values state =>
      (.ok (.text (String.join (values.map Value.printed))), state)

/-- Evaluates expressions one after the other. -/
def evalAll (line : Nat) (state : State) : List Expr → Evaluated (List Value)
  | [] => (.ok [], state)
  | expr :: more =>
    andThen (expr.eval line state) fun value state =>
      andThen (evalAll line state more) fun values state => (.ok (value :: values), state)

end

/-! ## 4. Statements -/

/-- Ends a statement after an evaluation. -/
def finish {α : Type} (result : Evaluated α) (next : α → State → Flow × State) : Flow × State :=
  match result with
  | (.ok x, state) => next x state
  | (.error mishap, state) => (.failed mishap, state)

/-- Repeats `round` until it leaves or fails. -/
def repeatRound (line : Nat) (round : State → Flow × State) : Nat → State → Flow × State
  | 0, state => (.failed (Mishap.on line .tooManyOperations), state)
  | fuel + 1, state =>
    match round state with
    | (.done, state) => repeatRound line round fuel state
    | (.next, state) => repeatRound line round fuel state
    | (.left, state) => (.done, state)
    | (.failed mishap, state) => (.failed mishap, state)

/-- Does `round` for `count` numbers from `n` on, until it leaves or fails. -/
def countRounds (round : Int → State → Flow × State) : Nat → Int → State → Flow × State
  | 0, _, state => (.done, state)
  | count + 1, n, state =>
    match round n state with
    | (.done, state) => countRounds round count (n + 1) state
    | (.next, state) => countRounds round count (n + 1) state
    | (.left, state) => (.done, state)
    | (.failed mishap, state) => (.failed mishap, state)

/-- Takes an operation before a step. -/
def charged (line : Nat) (state : State) (step : State → Flow × State) : Flow × State :=
  match state.charge? with
  | none => (.failed (Mishap.on line .tooManyOperations), state)
  | some state => step state

/-- Ends a scope that began with `count` variables. -/
def endScope (count : Nat) (result : Flow × State) : Flow × State :=
  (result.1, result.2.keep count)

/-- How many numbers a counting loop goes through. -/
def roundCount (low high : Int) (inclusive : Bool) : Nat :=
  if inclusive then (high - low + 1).toNat else (high - low).toNat

mutual

/-- Carries out a statement. -/
def Statement.exec (state : State) : Statement → Flow × State
  | .declare line name value =>
    charged line state fun state =>
      match value with
      | none => (.done, state.declare name .unit)
      | some expr => finish (expr.eval line state) fun v state => (.done, state.declare name v)
  | .assign line name expr =>
    charged line state fun state =>
      finish (expr.eval line state) fun v state =>
        match state.bindings.lookup name with
        | none => (.failed (Mishap.on line (.unknownVariable name)), state)
        | some _ => (.done, state.assign name v)
  | .update line name operator expr =>
    charged line state fun state =>
      finish (expr.eval line state) fun v state =>
        match state.bindings.lookup name with
        | none => (.failed (Mishap.on line (.unknownVariable name)), state)
        | some old =>
          match combine line (some line) operator old v with
          | .error mishap => (.failed mishap, state)
          | .ok new => (.done, state.assign name new)
  | .evaluate line expr =>
    charged line state fun state => finish (expr.eval line state) fun _ state => (.done, state)
  | .throw line value =>
    charged line state fun state =>
      match value with
      | none => (.failed (Mishap.on line (.thrown "")), state)
      | some expr =>
        finish (expr.eval line state) fun v state =>
          (.failed (Mishap.on line (.thrown v.printed)), state)
  | .block line body =>
    charged line state fun state => endScope state.bindings.length (execAll state body)
  | .choose line condition yes no =>
    charged line state fun state =>
      finish (condition.eval line state) fun v state =>
        match asBool (condition.line?.getD line) v with
        | .error mishap => (.failed mishap, state)
        | .ok true => endScope state.bindings.length (execAll state yes)
        | .ok false => endScope state.bindings.length (execAll state no)
  | .repeatWhile line condition body =>
    repeatRound line
      (fun state =>
        charged line state fun state =>
          finish (condition.eval line state) fun v state =>
            match asBool (condition.line?.getD line) v with
            | .error mishap => (.failed mishap, state)
            | .ok true => endScope state.bindings.length (execAll state body)
            | .ok false => (.left, state))
      (state.left + 1) state
  | .repeatForever line body =>
    repeatRound line
      (fun state =>
        charged line state fun state => endScope state.bindings.length (execAll state body))
      (state.left + 1) state
  | .count line name low high inclusive body =>
    charged line state fun state =>
      finish (low.eval line state) fun v state =>
        finish (high.eval line state) fun w state =>
          match v, w with
          | .number m, .number n =>
            countRounds
              (fun i state =>
                charged line state fun state =>
                  endScope state.bindings.length (execAll (state.declare name (.number i)) body))
              (roundCount m n inclusive) m state
          | _, _ => (.failed (Mishap.on line .notIterable), state)
  | .leave line => charged line state fun state => (.left, state)
  | .next line => charged line state fun state => (.next, state)

/-- Carries out statements one after the other. -/
def execAll (state : State) : List Statement → Flow × State
  | [] => (.done, state)
  | statement :: more =>
    match statement.exec state with
    | (.done, state) => execAll state more
    | (flow, state) => (flow, state)

end

end Stagecraft.Script
