import Stagecraft.SourceMap

/-!
# Source maps in machine words

The look-ups of `Stagecraft.SourceMap` reckon with numbers of any size. A machine that reckons with
words of 64 bits has none for a sum that grows too large, nor for a difference below zero. Here are
the same look-ups with each of their sums and differences checked for that: they fail where a word
would.

The search among the entries makes no number that is not an index into them, so it is not repeated.
-/

namespace Stagecraft

/-- Why there is no word for a result. -/
inductive WordFault where
  | overflow
  | underflow
deriving DecidableEq

namespace Word

/-- A sum, if there is a word for it. -/
def add (a b : Nat) : Except WordFault Nat :=
  if a + b < UInt64.size then .ok (a + b) else .error .overflow

/-- A difference, if there is a word for it. -/
def sub (a b : Nat) : Except WordFault Nat :=
  if b ≤ a then .ok (a - b) else .error .underflow

variable {a b : Nat}

theorem add_eq_ok (h : a + b < UInt64.size) : add a b = .ok (a + b) := if_pos h

theorem sub_eq_ok (h : b ≤ a) : sub a b = .ok (a - b) := if_pos h

end Word

namespace SourceMap

/-- The run of an entry. The line behind the text is worked out for every entry that there is, also
    where the next one ends the run. -/
def lineRangeInWords (map : SourceMap) (index : Nat) : Except WordFault (Option (Nat × Nat)) :=
  match map.entries[index]? with
  | none => .ok none
  | some entry => do
    let next ← Word.add index 1
    let behind ← Word.add map.lineCount 1
    return some (entry.startLine, (map.entries[next]?.map MapEntry.startLine).getD behind)

/-- The handler of a line. -/
def locateInWords (map : SourceMap) (line : Nat) : Except WordFault (Option Located) :=
  if line = 0 ∨ map.lineCount < line then .ok none
  else
    match map.entryBy? line with
    | none => .ok none
    | some entry => do
      let before ← Word.sub line entry.startLine
      let within ← Word.add before 1
      return some ⟨entry.actor, entry.handler, within⟩

end SourceMap

end Stagecraft
