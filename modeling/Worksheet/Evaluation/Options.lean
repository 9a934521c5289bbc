/-!
# Options of evaluation

* `Options` : the limits of evaluation, and what a failed formula shows; `Options.default`.
-/

namespace Worksheet

/-- Limits of evaluation, and what a failed formula shows. -/
structure Options where
  /-- How many levels deep formulas in ranges are evaluated. -/
  maxDepth : Nat
  /-- How many formulas may follow the first one. -/
  maxChain : Nat
  /-- How many operations a script may take; zero for no limit. -/
  maxOperations : Nat
  invalidDisplay : String
  deriving DecidableEq, Repr, Inhabited

def Options.default : Options where
  maxDepth := 10
  maxChain := 1000
  maxOperations := 1000000
  invalidDisplay := "INVALID"

end Worksheet
