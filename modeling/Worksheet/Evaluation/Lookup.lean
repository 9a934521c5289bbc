import Worksheet.CellValue
import Worksheet.Sheet.Grid

/-!
# Looking up cells and ranges

A formula may look up single cells and rectangles of cells. A cell is answered as it is stored, whether it
holds a literal or a formula. A rectangle is clipped to the extent; it is answered row by row, and each
formula in it is evaluated for its own cell, one level deeper. The first one that fails fails the
rectangle.

* `resolveCell` : the stored text of a cell.
* `Rectangle`, `Rectangle.ofCorners?` : the cells between two corners that lie in the extent.
* `resolveRange` : the values in a rectangle; how formulas are evaluated is a parameter.
-/

namespace Worksheet

/-- The stored text of a cell, as the cell of a context may see it: a cell past the extent is out of
range, and a formula may not ask for its own cell. -/
def resolveCell (g : Grid) (c : Coord) (ctx : Context) : Except ErrorCode String :=
  if !g.extent.contains c then .error .outOfRange
  else if c = ctx.current then .error .selfReference
  else .ok (g.get c)

/-- The cells from `(left, top)` on in so many columns and rows. -/
structure Rectangle where
  left : Nat
  top : Nat
  width : Nat
  height : Nat
  deriving DecidableEq, Repr

namespace Rectangle

/-- The rectangle between two corners in any order, clipped to an extent, unless nothing is left. -/
def ofCorners? (extent : Extent) (a b : Coord) : Option Rectangle :=
  let left := min a.x b.x
  let right := min (max a.x b.x) extent.maxX
  let top := min a.y b.y
  let bottom := min (max a.y b.y) extent.maxY
  if right < left ∨ bottom < top then none
  else some ⟨left, top, right - left + 1, bottom - top + 1⟩

def rows (r : Rectangle) : List Nat :=
  List.range' r.top r.height

def cellsOf (r : Rectangle) (y : Nat) : List Coord :=
  (List.range' r.left r.width).map fun x => ⟨x, y⟩

end Rectangle

variable {m : Type → Type} [Monad m]

/-- The value of a cell in a range: its literal as text, or what its formula evaluates to. -/
def rangeCell (g : Grid) (ctx : Context) (evaluate : Context → String → m Result) (c : Coord) :
    ExceptT ErrorCode m CellValue :=
  match formula? (g.get c) with
  | some formula => evaluate (ctx.nested c) formula
  | none => pure (.text (g.get c))

def rangeRow (g : Grid) (ctx : Context) (evaluate : Context → String → m Result) (r : Rectangle)
    (y : Nat) : ExceptT ErrorCode m (List CellValue) :=
  if g.hasRow y then (r.cellsOf y).mapM (rangeCell g ctx evaluate)
  else pure (List.replicate r.width .empty)

/-- The values between two corners, row by row; none if nothing lies in the extent. -/
def resolveRange (g : Grid) (a b : Coord) (ctx : Context) (evaluate : Context → String → m Result) :
    ExceptT ErrorCode m (List (List CellValue)) :=
  match Rectangle.ofCorners? g.extent a b with
  | none => pure []
  | some r => r.rows.mapM (rangeRow g ctx evaluate r)

/-- An evaluation that a range asked for. -/
structure Visit where
  context : Context
  formula : String
  result : Result

def recording (evaluate : Context → String → Result) (ctx : Context) (formula : String) :
    StateM (List Visit) Result := do
  let result := evaluate ctx formula
  modify (⟨ctx, formula, result⟩ :: ·)
  return result

/-- The values between two corners, and the evaluations that were done for them in order. -/
def traceRange (g : Grid) (a b : Coord) (ctx : Context) (evaluate : Context → String → Result) :
    Except ErrorCode (List (List CellValue)) × List Visit :=
  let (r, visits) := (resolveRange g a b ctx (recording evaluate)).run.run []
  (r, visits.reverse)

end Worksheet
