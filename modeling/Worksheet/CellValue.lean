import Worksheet.Decimal.Layout
import Worksheet.ErrorCode
import Worksheet.Text.WhiteSpace

/-!
# Cell values

A cell's value is a number or a text. A cell stores text; text that is a numeral stands for a number.

* `CellValue` : numbers and texts; `CellValue.text` is how they show.
* `CellValue.ofRaw` : what stored text stands for.
* `formula?` : the formula in a stored text, which is what follows a leading `=`.
* `Result` : the outcome of an evaluation.
-/

namespace Worksheet

inductive CellValue
  | number (x : Float)
  | text (s : String)
  deriving Inhabited

namespace CellValue

def empty : CellValue :=
  .text ""

/-- What a cell's stored text stands for: a finite number if the text, white space around it apart, is
a numeral; otherwise the text itself. -/
def ofRaw (raw : String) : CellValue :=
  match Decimal.read? (Text.trimChars raw.toList) with
  | some x => if x.isFinite then .number x else .text raw
  | none => .text raw

def display : CellValue → String
  | number x => Decimal.displayed.text x
  | text s => s

end CellValue

/-- The outcome of an evaluation: a value, or the code of its failure. -/
abbrev Result := Except ErrorCode CellValue

/-- The formula in a stored text: what follows the leading `=`. Text without one is a literal. -/
def formula? (raw : String) : Option String :=
  match raw.toList with
  | '=' :: cs => some (String.ofList cs)
  | _ => none

def ofFormula (formula : String) : String :=
  "=" ++ formula

@[simp] theorem formula?_ofFormula (formula : String) : formula? (ofFormula formula) = some formula := by
  simp [formula?, ofFormula]

end Worksheet
