import Worksheet.Address.Coord
import Worksheet.Decimal.Numeral
import Worksheet.Text.WhiteSpace

/-!
# Cell names

A cell is named by column letters and a row number: `A1`, `b7`, `AA10`. Letters count in bijective base
26 (`Z` is followed by `AA`), rows from one. Either part may carry a `$`, which is ignored.

* `CellRef` : a column and a row, both counted from zero.
* `CellRef.columnLetters`, `CellRef.name` : writing.
* `CellRef.ofName?` : reading.
* `CellRef.toCoord`, `CellRef.ofCoord?` : the cell's place in a sheet.
* `Coord.name` : the name of a data cell, `(x, y)` for a header.
-/

namespace Worksheet

/-- A data cell: its column and its row, counted from zero. -/
structure CellRef where
  column : Nat
  row : Nat
  deriving DecidableEq, Repr, Inhabited

namespace CellRef

/-! ## Writing -/

/-- The letters of the column with this number, counted from zero: `A`, …, `Z`, `AA`, …. -/
def columnLetters (n : Nat) : List Char :=
  (if n < 26 then [] else columnLetters (n / 26 - 1)) ++ [Char.ofNat ('A'.toNat + n % 26)]
termination_by n
decreasing_by omega

def nameChars (r : CellRef) : List Char :=
  columnLetters r.column ++ Nat.toDigits 10 (r.row + 1)

/-- A cell's name: column letters in upper case, then the row counted from one. -/
def name (r : CellRef) : String :=
  String.ofList r.nameChars

/-! ## Reading -/

/-- A letter's value as a digit: `A` and `a` are 1. -/
def letterValue (c : Char) : Nat :=
  c.toUpper.toNat - 'A'.toNat + 1

def checkWord (n : Nat) : Option Nat :=
  if n < wordBound then some n else none

def columnNumber? (letters : List Char) : Option Nat :=
  letters.foldlM (fun n c => checkWord (26 * n + letterValue c)) 0

def rowNumber? (digits : List Char) : Option Nat :=
  checkWord (Decimal.ofDigits digits)

def ofNumbers? (column row : Nat) : Option CellRef :=
  if column = 0 ∨ row = 0 then none else some ⟨column - 1, row - 1⟩

def dropAnchor : List Char → List Char
  | '$' :: cs => cs
  | cs => cs

/-- Reads `$`, letters, `$` and digits, where each `$` may be absent; nothing may be left over. -/
def ofChars? (cs : List Char) : Option CellRef := do
  let cs := dropAnchor cs
  let letters := cs.takeWhile Char.isAlpha
  let digits := dropAnchor (cs.dropWhile Char.isAlpha)
  if letters.isEmpty || digits.isEmpty || !digits.all Char.isDigit then none
  else ofNumbers? (← columnNumber? letters) (← rowNumber? digits)

/-- The cell with this name; white space around the name is ignored. -/
def ofName? (name : String) : Option CellRef :=
  ofChars? (Text.trimChars name.toList)

/-! ## Places in a sheet -/

/-- The cell's place in a sheet, where row and column 0 hold the headers. -/
def toCoord (r : CellRef) : Coord :=
  ⟨r.column + 1, r.row + 1⟩

def ofCoord? (c : Coord) : Option CellRef :=
  if c.isHeader then none else some ⟨c.x - 1, c.y - 1⟩

@[simp] theorem toCoord_isHeader (r : CellRef) : r.toCoord.isHeader = false := by
  simp [toCoord, Coord.isHeader]

@[simp] theorem ofCoord?_toCoord (r : CellRef) : ofCoord? r.toCoord = some r := by
  simp [ofCoord?]; simp [toCoord]

end CellRef

/-- A place's name: the cell's name, or `(x, y)` for a header. -/
def Coord.name (c : Coord) : String :=
  match CellRef.ofCoord? c with
  | some r => r.name
  | none => "(" ++ toString c.x ++ ", " ++ toString c.y ++ ")"

end Worksheet
