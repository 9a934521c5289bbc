import Worksheet.Sheet.Snapshot

/-!
# Grids

A grid holds the stored text of a sheet's cells, the sheet's extent, and whether a cell was set since
the grid was last marked clean. Absent cells read as the empty text. The extent only grows, one row or
column at a time; storing a cell does not change it.

* `Grid` : the cells, the extent and the mark.
* `Grid.new`, `Grid.ofSnapshot` : a clean grid.
* `Grid.get`, `Grid.hasRow`, `Grid.size`, `Grid.snapshot` : reading.
* `Grid.set`, `Grid.growRows`, `Grid.growColumns`, `Grid.markClean` : changing.
* `get_set` : a change seen through `get`.
-/

namespace Worksheet

/-- The cells of a sheet. -/
structure Grid where
  /-- Stored text by row, then by column. -/
  rows : Snapshot
  extent : Extent
  /-- Whether a cell was set since the grid was last marked clean. -/
  modified : Bool

namespace Grid

def new (extent : Extent) : Grid :=
  ⟨.empty, extent, false⟩

/-- The grid with the cells of a snapshot. Rows without cells are left out. -/
def ofSnapshot (s : Snapshot) (extent : Extent) : Grid :=
  ⟨s.filter fun row => !row.isEmpty, extent, false⟩

/-! ## Reading -/

/-- The row of a grid, empty if it has no cells. -/
def row (g : Grid) (y : Nat) : SortedMap String :=
  (g.rows.get? y).getD .empty

def get (g : Grid) (c : Coord) : String :=
  ((g.row c.y).get? c.x).getD ""

def hasRow (g : Grid) (y : Nat) : Bool :=
  g.rows.contains y

def size (g : Grid) : Nat :=
  (g.rows.entries.flatMap fun e => e.2.entries).length

def snapshot (g : Grid) : Snapshot :=
  g.rows

/-! ## Changing -/

def set (g : Grid) (c : Coord) (raw : String) : Grid :=
  { g with rows := g.rows.insert c.y ((g.row c.y).insert c.x raw), modified := true }

def growRows (g : Grid) : Grid :=
  { g with extent := { g.extent with maxY := nextWord g.extent.maxY } }

def growColumns (g : Grid) : Grid :=
  { g with extent := { g.extent with maxX := nextWord g.extent.maxX } }

def markClean (g : Grid) : Grid :=
  { g with modified := false }

/-! ## Views -/

theorem get_new (extent : Extent) (c : Coord) : (new extent).get c = "" := rfl

theorem get_set (g : Grid) (c d : Coord) (raw : String) :
    (g.set c raw).get d = if d = c then raw else g.get d := by
  obtain ⟨cx, cy⟩ := c
  obtain ⟨dx, dy⟩ := d
  simp only [get, set, row, SortedMap.get?_insert, Coord.mk.injEq]
  by_cases hy : dy = cy
  · subst hy
    simp only [if_true, Option.getD_some, SortedMap.get?_insert, and_true]
    split <;> rfl
  · simp [hy]

@[simp] theorem extent_set (g : Grid) (c : Coord) (raw : String) : (g.set c raw).extent = g.extent := rfl

@[simp] theorem get_growRows (g : Grid) (c : Coord) : g.growRows.get c = g.get c := rfl

@[simp] theorem get_growColumns (g : Grid) (c : Coord) : g.growColumns.get c = g.get c := rfl

@[simp] theorem get_markClean (g : Grid) (c : Coord) : g.markClean.get c = g.get c := rfl

end Grid

end Worksheet
