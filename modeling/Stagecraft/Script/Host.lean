import Stagecraft.Attribution
import Stagecraft.Script.Machine

/-!
# The host for scripts

`Script.host` runs a text as a script: it is read first, as a whole, and then carried out with a
bounded number of operations. A text that cannot be read prints nothing.
-/

namespace Stagecraft.Script

/-- How a host is set up. What is not given is as in `Options.limit` and `Options.isStrict`. -/
structure Options where
  maxOperations : Option Nat
  strictVariables : Option Bool

namespace Options

/-- Nothing given. -/
def standard : Options := ⟨none, none⟩

/-- How many operations a run may take. Zero stands for no bound; then the counter of 64 bits is
    the bound. -/
def limit (options : Options) : Nat :=
  match options.maxOperations.getD 1000000 with
  | 0 => 0x10000000000000000
  | n + 1 => n + 1

/-- Whether variables have to be declared before they are named. -/
def isStrict (options : Options) : Bool :=
  options.strictVariables.getD true

end Options

/-- The result of a run that ended in `flow`. -/
def resultOf : Flow × State → RunResult
  | (.failed mishap, state) => .failed mishap.line mishap.cause.message state.lines.reverse
  | (_, state) => .success state.lines.reverse

/-- Runs a text as a script. -/
def host (options : Options) : Host := fun script =>
  match parse options.isStrict script with
  | .error mishap => .failed mishap.line mishap.cause.message []
  | .ok body => resultOf (execAll ⟨[], [], options.limit⟩ body)

end Stagecraft.Script
