import Stagecraft.Script.Mishap
import Stagecraft.Text.Hex

/-!
# Tokens

`tokens` cuts a script into tokens, each with the line on which it starts. Blanks and comments are
passed over. A text in backquotes may have holes, `${…}`, with an expression in each: it is cut
into its pieces of text, with the tokens of the holes between them. Where the text cannot be cut
any further the last token carries the fault; otherwise the last token is `ending`.
-/

namespace Stagecraft.Script

/-- The parts of a script. -/
inductive Token where
  /-- A name or a keyword. -/
  | word (name : String)
  | number (digits : String)
  | text (content : String)
  /-- The piece of text before the first hole. -/
  | opening (content : String)
  /-- A piece of text between two holes. -/
  | between (content : String)
  /-- The piece of text after the last hole. -/
  | closing (content : String)
  /-- An operator, a bracket or a mark. -/
  | mark (symbol : String)
  | fault (cause : Cause)
  | ending
deriving DecidableEq

/-- A token and the line on which it starts. -/
structure Placed where
  token : Token
  line : Nat
deriving DecidableEq

/-- A token as it stands in a message. -/
def Token.symbol : Token → String
  | word name => name
  | number digits => digits
  | text content => s!"\"{content}\""
  | opening content => content
  | between content => content
  | closing content => content
  | mark symbol => symbol
  | fault _ => ""
  | ending => ""

/-! ## 1. Words, numbers, marks -/

/-- A character that may start a name. -/
def startsName (c : Char) : Bool := c.isAlpha || c = '_'

/-- A character that may stand in a name. -/
def inName (c : Char) : Bool := c.isAlphanum || c = '_'

/-- The longest front of `cs` whose characters satisfy `p`, and the rest. -/
def spanChars (p : Char → Bool) (cs : List Char) : String × List Char :=
  (String.ofList (cs.takeWhile p), cs.dropWhile p)

/-- The marks, a longer one before its own beginnings. -/
def marks : List String :=
  ["..=", "<<=", ">>=", "**=", "==", "!=", "<=", ">=", "&&", "||", "+=", "-=", "*=", "/=", "%=",
   "..", "**", "<<", ">>", "=", "<", ">", "+", "-", "*", "/", "%", "!", "(", ")", "\x7b", "\x7d",
   ";", ",", ".", ":", "[", "]", "&", "|", "^", "?"]

/-- The rest of `cs` after `front`, if `cs` begins with it. -/
def afterFront? : List Char → List Char → Option (List Char)
  | [], cs => some cs
  | _ :: _, [] => none
  | x :: xs, c :: cs => if x = c then afterFront? xs cs else none

/-- The mark with which `cs` begins. -/
def takeMark? (cs : List Char) : Option (String × List Char) :=
  marks.findSome? fun mark => (afterFront? mark.toList cs).map (mark, ·)

/-! ## 2. Texts -/

/-- A piece of text that was read, or why it cannot be read. -/
inductive Piece where
  /-- The content, the line after it, and the rest; `hole` says that a hole follows. -/
  | read (content : String) (hole : Bool) (line : Nat) (rest : List Char)
  | failed (cause : Cause)

/-- The character of an escape by a number of `width` digits. -/
def numberedEscape? (width : Nat) (cs : List Char) : Option (Char × List Char) :=
  if width ≤ cs.length then
    (Hex.number? (cs.take width)).map fun n => (Char.ofNat n, cs.drop width)
  else none

/-- The character of an escape, after its backslash. -/
def escape? : List Char → Option (Char × List Char)
  | '"' :: rest => some ('"', rest)
  | '\\' :: rest => some ('\\', rest)
  | 'n' :: rest => some ('\n', rest)
  | 't' :: rest => some ('\t', rest)
  | 'r' :: rest => some ('\r', rest)
  | 'x' :: rest => numberedEscape? 2 rest
  | 'u' :: rest => numberedEscape? 4 rest
  | 'U' :: rest => numberedEscape? 8 rest
  | _ => none

/-- A text in double quotes, after the first one. Every step takes a character at least. -/
def plainText (line : Nat) : Nat → List Char → List Char → Piece
  | 0, _, _ => .failed .openString
  | fuel + 1, done, cs =>
    match cs with
    | [] => .failed .openString
    | '"' :: rest => .read (String.ofList done.reverse) false line rest
    | '\n' :: _ => .failed .openString
    | '\\' :: rest =>
      match escape? rest with
      | some (c, rest) => plainText line fuel (c :: done) rest
      | none => .failed (.badEscape (String.ofList ('\\' :: rest.take 1)))
    | c :: rest => plainText line fuel (c :: done) rest

/-- A text in backquotes, after the first one or after a hole. A doubled backquote stands for
    one. -/
def holedText : Nat → List Char → List Char → Piece
  | line, done, '\x60' :: '\x60' :: rest => holedText line ('\x60' :: done) rest
  | line, done, '\x60' :: rest => .read (String.ofList done.reverse) false line rest
  | line, done, '$' :: '\x7b' :: rest => .read (String.ofList done.reverse) true line rest
  | line, done, '\n' :: rest => holedText (line + 1) ('\n' :: done) rest
  | line, done, c :: rest => holedText line (c :: done) rest
  | _, _, [] => .failed .openString

/-- Drops the line break directly after the first backquote. -/
def dropBreak (line : Nat) : List Char → Nat × List Char
  | '\n' :: rest => (line + 1, rest)
  | '\r' :: '\n' :: rest => (line + 1, rest)
  | rest => (line, rest)

/-! ## 3. Tokens -/

/-- Passes over a comment in marks, and counts its lines. Comments may be nested. -/
def skipComment : Nat → Nat → List Char → Nat × List Char
  | line, _, [] => (line, [])
  | line, depth, '*' :: '/' :: rest =>
    match depth with
    | 0 => (line, rest)
    | depth + 1 => skipComment line depth rest
  | line, depth, '/' :: '*' :: rest => skipComment line (depth + 1) rest
  | line, depth, '\n' :: rest => skipComment (line + 1) depth rest
  | line, depth, _ :: rest => skipComment line depth rest

/-- The token that a piece of text makes, after which the text goes on. -/
def pieceToken (hole : Bool) (afterHole : Bool) (content : String) : Token :=
  match afterHole, hole with
  | false, false => .text content
  | false, true => .opening content
  | true, true => .between content
  | true, false => .closing content

/-- The tokens of `cs` from `line` on. `braces` lists the braces that are open, `true` for a hole.
    Every step takes a character at least, so a `fuel` of the text's length and one suffices. -/
def tokensFrom : Nat → Nat → List Bool → List Char → List Placed
  | 0, line, _, _ => [⟨.ending, line⟩]
  | fuel + 1, line, braces, cs =>
    match cs with
    | [] => [⟨.ending, line⟩]
    | '\n' :: rest => tokensFrom fuel (line + 1) braces rest
    | '/' :: '/' :: rest => tokensFrom fuel line braces (rest.dropWhile (· ≠ '\n'))
    | '/' :: '*' :: rest =>
      let (next, rest) := skipComment line 0 rest
      tokensFrom fuel next braces rest
    | '"' :: rest =>
      match plainText line (rest.length + 1) [] rest with
      | .failed cause => [⟨.fault cause, line⟩]
      | .read content _ next rest => ⟨.text content, line⟩ :: tokensFrom fuel next braces rest
    | '\x60' :: rest =>
      let (start, rest) := dropBreak line rest
      match holedText start [] rest with
      | .failed cause => [⟨.fault cause, line⟩]
      | .read content hole next rest =>
        ⟨pieceToken hole false content, line⟩ ::
          tokensFrom fuel next (if hole then true :: braces else braces) rest
    | '\x7d' :: rest =>
      match braces with
      | true :: outer =>
        match holedText line [] rest with
        | .failed cause => [⟨.fault cause, line⟩]
        | .read content hole next rest =>
          ⟨pieceToken hole true content, line⟩ ::
            tokensFrom fuel next (if hole then true :: outer else outer) rest
      | _ => ⟨.mark "\x7d", line⟩ :: tokensFrom fuel line braces.tail rest
    | '\x7b' :: rest => ⟨.mark "\x7b", line⟩ :: tokensFrom fuel line (false :: braces) rest
    | c :: rest =>
      if c = ' ' ∨ c = '\t' ∨ c = '\r' then tokensFrom fuel line braces rest
      else if startsName c then
        let (name, rest) := spanChars inName (c :: rest)
        ⟨.word name, line⟩ :: tokensFrom fuel line braces rest
      else if c.isDigit then
        let (digits, rest) := spanChars (fun c => c.isDigit || c = '_') (c :: rest)
        ⟨.number digits, line⟩ :: tokensFrom fuel line braces rest
      else
        match takeMark? (c :: rest) with
        | some (mark, rest) => ⟨.mark mark, line⟩ :: tokensFrom fuel line braces rest
        | none => [⟨.fault (.unexpected (String.singleton c)), line⟩]

/-- The tokens of a script. -/
def tokens (script : String) : List Placed :=
  tokensFrom (script.length + 1) 1 [] script.toList

end Stagecraft.Script
