import Worksheet.Script.Dialogue

/-!
# Engines

A formula is run by an engine for scripts. What the evaluator makes of formulas depends on the engine only through the
runs of their scripts, each of which asks its questions and ends with a value or a fault.

* `Engine` : what runs scripts, and the functions of its library that keep faults to themselves.
* `dialogue` : what comes of a script, its value or the code of its failure.
-/

namespace Worksheet.Script

/-- What runs scripts. -/
class Engine where
  /-- The run of the text of a script that may take so many operations; zero for no limit. -/
  run (limit : Nat) (script : String) : Dialogue (Except Fault Value)
  /-- The functions of its library that go on when a function that they are given, or a text that they run, has a
  fault. -/
  absorbers : List String

/-- What comes of the text of a script: its value or the code of its failure. -/
def dialogue [Engine] (limit : Nat) (script : String) : Dialogue (Except ErrorCode Value) :=
  (Engine.run limit script).map (Except.mapError Fault.code)

end Worksheet.Script
