import Stagecraft.Json.Fault

/-!
# Strings

`quote` writes a string: a quote, a backslash and the control characters are escaped, all else
stands as it is. `scanString` reads a string after its opening quote and refuses raw control
characters, unknown escapes and surrogates that are not paired. `skipString` passes over a string
whose content nobody asks for, and lets its surrogates be.
-/

namespace Stagecraft.Json

/-! ## 1. Writing -/

/-- A character as it stands in a string. -/
def quotedChar (c : Char) : List Char :=
  if c = '"' then ['\\', '"']
  else if c = '\\' then ['\\', '\\']
  else if c = '\x08' then ['\\', 'b']
  else if c = '\t' then ['\\', 't']
  else if c = '\n' then ['\\', 'n']
  else if c = '\x0c' then ['\\', 'f']
  else if c = '\r' then ['\\', 'r']
  else if c.toNat < 0x20 then ['\\', 'u'] ++ Hex.digits 4 c.toNat
  else [c]

/-- The characters of a string in quotes. -/
def quoteChars (cs : List Char) : List Char :=
  '"' :: cs.flatMap quotedChar ++ ['"']

/-- A text as a JSON string. -/
def quote (text : String) : String :=
  String.ofList (quoteChars text.toList)

/-! ## 2. Escapes -/

/-- The character that a backslash and `c` stand for. -/
def plainEscape? (c : Char) : Option Char :=
  if c = '"' then some '"'
  else if c = '\\' then some '\\'
  else if c = '/' then some '/'
  else if c = 'b' then some '\x08'
  else if c = 'f' then some '\x0c'
  else if c = 'n' then some '\n'
  else if c = 'r' then some '\r'
  else if c = 't' then some '\t'
  else none

/-- The number that four hexadecimal digits write. Four bytes are taken at once. -/
def scanHex : Scan Nat
  | a :: b :: c :: d :: rest =>
    match Hex.number? [a, b, c, d] with
    | some n => .ok (n, rest)
    | none => .error ⟨.badEscape, a :: b :: c :: d :: rest, 4, true⟩
  | s =>
    if Fault.bytes s < 4 then .error (Fault.before .endsInString [])
    else .error ⟨.badEscape, s, 4, true⟩

/-- Whether a number is the first half of a surrogate pair. -/
def isHighSurrogate (n : Nat) : Bool :=
  0xD800 ≤ n && n ≤ 0xDBFF

/-- Whether a number is the second half of a surrogate pair. -/
def isLowSurrogate (n : Nat) : Bool :=
  0xDC00 ≤ n && n ≤ 0xDFFF

/-- The character of a surrogate pair. -/
def pairChar (high low : Nat) : Char :=
  Char.ofNat (0x10000 + (high - 0xD800) * 0x400 + (low - 0xDC00))

/-- The second half of a surrogate pair, as an escape of its own. -/
def scanLowSurrogate : Scan Nat
  | [] => .error (Fault.before .endsInString [])
  | '\\' :: [] => .error (Fault.before .endsInString [])
  | '\\' :: 'u' :: rest =>
    match scanHex rest with
    | .error fault => .error fault
    | .ok (low, rest) =>
      if isLowSurrogate low then .ok (low, rest) else .error (Fault.before .loneSurrogate rest)
  | '\\' :: rest => .error (Fault.upon .cutSurrogate rest)
  | rest => .error (Fault.upon .cutSurrogate rest)

/-- The character of an escape by number, after its `u`. -/
def scanNumbered : Scan Char := fun s =>
  match scanHex s with
  | .error fault => .error fault
  | .ok (n, rest) =>
    if isLowSurrogate n then .error (Fault.before .loneSurrogate rest)
    else if isHighSurrogate n then
      match scanLowSurrogate rest with
      | .error fault => .error fault
      | .ok (low, rest) => .ok (pairChar n low, rest)
    else .ok (Char.ofNat n, rest)

/-- The character of an escape, after its backslash. -/
def scanEscape : Scan Char
  | [] => .error (Fault.before .endsInString [])
  | 'u' :: rest => scanNumbered rest
  | c :: rest =>
    match plainEscape? c with
    | some x => .ok (x, rest)
    | none => .error (Fault.upon .badEscape (c :: rest))

/-! ## 3. Reading -/

/-- The next character of a string, `none` at its closing quote. -/
def scanChar : Scan (Option Char)
  | [] => .error (Fault.before .endsInString [])
  | c :: rest =>
    if c = '"' then .ok (none, rest)
    else if c = '\\' then
      match scanEscape rest with
      | .error fault => .error fault
      | .ok (x, rest) => .ok (some x, rest)
    else if c.toNat < 0x20 then .error (Fault.upon .controlCharacter (c :: rest))
    else .ok (some c, rest)

/-- The characters up to the closing quote, after those in `done`, the last one first. Every step
    takes a character at least, so a `fuel` of the text's length suffices. -/
def scanChars : Nat → List Char → Scan (List Char)
  | 0, _, s => .error (Fault.before .endsInString s)
  | fuel + 1, done, s =>
    match scanChar s with
    | .error fault => .error fault
    | .ok (none, rest) => .ok (done.reverse, rest)
    | .ok (some c, rest) => scanChars fuel (c :: done) rest

/-- A string, after its opening quote. -/
def scanString : Scan String := fun s =>
  match scanChars (s.length + 1) [] s with
  | .error fault => .error fault
  | .ok (cs, rest) => .ok (String.ofList cs, rest)

/-! ## 4. Passing over -/

/-- Passes over one character of a string; `true` at its closing quote. -/
def skipChar : Scan Bool
  | [] => .error (Fault.before .endsInString [])
  | '\\' :: [] => .error (Fault.before .endsInString [])
  | '\\' :: 'u' :: rest =>
    match scanHex rest with
    | .error fault => .error fault
    | .ok (_, rest) => .ok (false, rest)
  | '\\' :: c :: rest =>
    if (plainEscape? c).isSome then .ok (false, rest)
    else .error (Fault.upon .badEscape (c :: rest))
  | c :: rest =>
    if c = '"' then .ok (true, rest)
    else if c.toNat < 0x20 then .error (Fault.before .controlCharacter (c :: rest))
    else .ok (false, rest)

/-- Passes over a string, after its opening quote, in at most `fuel` steps. -/
def skipChars : Nat → List Char → Except Fault (List Char)
  | 0, s => .error (Fault.before .endsInString s)
  | fuel + 1, s =>
    match skipChar s with
    | .error fault => .error fault
    | .ok (true, rest) => .ok rest
    | .ok (false, rest) => skipChars fuel rest

/-- Passes over a string, after its opening quote. -/
def skipString (s : List Char) : Except Fault (List Char) :=
  skipChars (s.length + 1) s

end Stagecraft.Json
