import Worksheet.Document.Basic

/-!
# Tables

A whole sheet as a table of texts: column letters above, row numbers on the left, and an empty corner.

* `Document.renderWith` : the table, where a function says what a cell shows.
* `Document.render`, `Document.renderRaw` : the table of what cells show, and of their stored texts.
-/

namespace Worksheet.Document

variable {σ : Type}

def tableEntry (cell : Coord → String) (c : Coord) : String :=
  if c.y = 0 then if c.x = 0 then "" else String.ofList (CellRef.columnLetters (c.x - 1))
  else if c.x = 0 then toString c.y
  else cell c

def renderWith (d : Document σ) (cell : Coord → String) : List (List String) :=
  (List.range (d.grid.extent.maxY + 1)).map fun y =>
    (List.range (d.grid.extent.maxX + 1)).map fun x => tableEntry cell ⟨x, y⟩

def render (d : Document σ) : List (List String) :=
  d.renderWith d.display

def renderRaw (d : Document σ) : List (List String) :=
  d.renderWith d.raw

end Worksheet.Document
