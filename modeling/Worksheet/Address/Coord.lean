/-!
# Coordinates

Row 0 and column 0 of a sheet hold its headers, so its data cells start at `(1, 1)`. An extent says how
many data columns and rows a sheet has.

* `Coord` : a column and a row; `Coord.isHeader`.
* `Extent` : the last data column and row; `Extent.contains`, `Extent.cover`.
* `Context` : the cell an evaluation is for and how deeply it is nested.
-/

namespace Worksheet

-- powers of numbers are those of `Nat.pow` and `Int.pow`
attribute [local instance (high)] instPowNat

/-- Coordinates, counts and limits are 64-bit words: they are below this bound. -/
def wordBound : Nat := 2 ^ (64 : Nat)

/-- The word after `n`; the last word is followed by zero. -/
def nextWord (n : Nat) : Nat :=
  (n + 1) % wordBound

/-- A position in a sheet: column `x`, row `y`. -/
structure Coord where
  x : Nat
  y : Nat
  deriving DecidableEq, Repr, Inhabited

def Coord.isHeader (c : Coord) : Bool :=
  c.x = 0 || c.y = 0

/-- The size of a sheet: its last data column and its last data row. -/
structure Extent where
  maxX : Nat
  maxY : Nat
  deriving DecidableEq, Repr, Inhabited

namespace Extent

def contains (e : Extent) (c : Coord) : Bool :=
  c.x ≤ e.maxX && c.y ≤ e.maxY

theorem contains_iff (e : Extent) (c : Coord) : e.contains c = true ↔ c.x ≤ e.maxX ∧ c.y ≤ e.maxY := by
  rw [contains, Bool.and_eq_true, decide_eq_true_iff, decide_eq_true_iff]

def cover (e f : Extent) : Extent :=
  ⟨max e.maxX f.maxX, max e.maxY f.maxY⟩

def common (e f : Extent) : Extent :=
  ⟨min e.maxX f.maxX, min e.maxY f.maxY⟩

def text (e : Extent) : String :=
  toString e.maxX ++ "x" ++ toString e.maxY

end Extent

/-- The cell that an evaluation is for, and how many evaluations it is nested in. -/
structure Context where
  current : Coord
  depth : Nat
  deriving DecidableEq, Repr, Inhabited

namespace Context

def root (c : Coord) : Context :=
  ⟨c, 0⟩

def nested (ctx : Context) (c : Coord) : Context :=
  ⟨c, ctx.depth + 1⟩

end Context

end Worksheet
