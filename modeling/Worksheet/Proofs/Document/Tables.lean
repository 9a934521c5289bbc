import Worksheet.Document.Render
import Worksheet.Proofs.Address.Canonical
import Worksheet.Proofs.Document.CellChanges

/-!
# Tables and the names in them

A table has its column letters above and its row numbers on the left. Read together, the letters above a cell and the
number beside it are the name of the cell, in sheets of every size.

* `length_renderWith`, `length_of_mem_renderWith` : how many rows and entries a table has;
* `getElem?_renderWith` : the entries of a table; `getElem?_renderWith_data` : those of data cells;
* `name_data`, `columnLetters_inj` : a cell's name in two parts, and the columns that letters stand for;
* `setNamed_data` : what comes of storing a text under the name of a data cell;
* `headers_name` : the headers of a table name its cells; `not_always_saved` : not every call by name succeeds.
-/

namespace Worksheet.Document

variable {σ : Type} {d : Document σ} {c : Coord}

/-! ## Entries -/

theorem length_renderWith (d : Document σ) (cell : Coord → String) :
    (d.renderWith cell).length = d.grid.extent.maxY + 1 := by
  rw [renderWith, List.length_map, List.length_range]

theorem length_of_mem_renderWith (d : Document σ) (cell : Coord → String) {row : List String}
    (h : row ∈ d.renderWith cell) : row.length = d.grid.extent.maxX + 1 := by
  obtain ⟨y, -, rfl⟩ := List.mem_map.mp h
  rw [List.length_map, List.length_range]

/-- A table has an entry for each place in the extent, and no others. -/
theorem getElem?_renderWith (d : Document σ) (cell : Coord → String) (c : Coord) :
    (d.renderWith cell)[c.y]?.bind (·[c.x]?) =
      if d.grid.extent.contains c then some (tableEntry cell c) else none := by
  rw [renderWith, List.getElem?_map]
  by_cases hy : c.y < d.grid.extent.maxY + 1
  · rw [List.getElem?_range hy, Option.map_some, Option.bind_some, List.getElem?_map]
    by_cases hx : c.x < d.grid.extent.maxX + 1
    · rw [List.getElem?_range hx, if_pos ((Extent.contains_iff _ c).mpr (by omega))]
      rfl
    · rw [List.getElem?_eq_none (by simpa using hx), if_neg (by rw [Extent.contains_iff]; omega)]
      rfl
  · rw [List.getElem?_eq_none (by simpa using hy), if_neg (by rw [Extent.contains_iff]; omega)]
    rfl

theorem tableEntry_data (cell : Coord → String) (h : c.isHeader = false) : tableEntry cell c = cell c := by
  rw [Coord.isHeader, Bool.or_eq_false_iff, decide_eq_false_iff_not, decide_eq_false_iff_not] at h
  rw [tableEntry, if_neg h.2, if_neg h.1]

theorem getElem?_renderWith_data (d : Document σ) (cell : Coord → String) (hdata : c.isHeader = false)
    (hin : d.grid.extent.contains c = true) : (d.renderWith cell)[c.y]?.bind (·[c.x]?) = some (cell c) := by
  rw [getElem?_renderWith, if_pos hin, tableEntry_data cell hdata]

theorem getElem?_renderWith_column (d : Document σ) (cell : Coord → String) {x : Nat} (hx : 1 ≤ x)
    (hin : x ≤ d.grid.extent.maxX) :
    (d.renderWith cell)[0]?.bind (·[x]?) = some (String.ofList (CellRef.columnLetters (x - 1))) := by
  have hplace : d.grid.extent.contains ⟨x, 0⟩ = true := (Extent.contains_iff _ _).mpr ⟨hin, Nat.zero_le _⟩
  have hne : x ≠ 0 := Nat.ne_of_gt hx
  refine (getElem?_renderWith d cell ⟨x, 0⟩).trans ?_
  rw [if_pos hplace, tableEntry, if_pos rfl, if_neg hne]

theorem getElem?_renderWith_row (d : Document σ) (cell : Coord → String) {y : Nat} (hy : 1 ≤ y)
    (hin : y ≤ d.grid.extent.maxY) : (d.renderWith cell)[y]?.bind (·[0]?) = some (toString y) := by
  have hplace : d.grid.extent.contains ⟨0, y⟩ = true := (Extent.contains_iff _ _).mpr ⟨Nat.zero_le _, hin⟩
  have hne : y ≠ 0 := Nat.ne_of_gt hy
  refine (getElem?_renderWith d cell ⟨0, y⟩).trans ?_
  rw [if_pos hplace, tableEntry, if_neg hne, if_pos rfl]

theorem getElem?_renderWith_corner (d : Document σ) (cell : Coord → String) :
    (d.renderWith cell)[0]?.bind (·[0]?) = some "" := by
  have hplace : d.grid.extent.contains ⟨0, 0⟩ = true := (Extent.contains_iff _ _).mpr ⟨Nat.zero_le _, Nat.zero_le _⟩
  refine (getElem?_renderWith d cell ⟨0, 0⟩).trans ?_
  rw [if_pos hplace, tableEntry, if_pos rfl, if_pos rfl]

/-! ## Names -/

theorem name_data (hx : 1 ≤ c.x) (hy : 1 ≤ c.y) :
    c.name = String.ofList (CellRef.columnLetters (c.x - 1)) ++ toString c.y := by
  have hcell : CellRef.toCoord ⟨c.x - 1, c.y - 1⟩ = c := by
    rw [CellRef.toCoord, Nat.sub_add_cancel hx, Nat.sub_add_cancel hy]
  have hrow : c.y - 1 + 1 = c.y := Nat.sub_add_cancel hy
  calc c.name = CellRef.name ⟨c.x - 1, c.y - 1⟩ := by rw [← CellRef.name_toCoord, hcell]
    _ = String.ofList (CellRef.columnLetters (c.x - 1)) ++ String.ofList (Nat.toDigits 10 c.y) := by
      rw [CellRef.name, CellRef.nameChars, String.ofList_append, hrow]
    _ = _ := by rw [Nat.toString_eq_ofList_toDigits]

theorem columnLetters_inj {m n : Nat} (hm : m + 1 < wordBound) (hn : n + 1 < wordBound)
    (h : CellRef.columnLetters m = CellRef.columnLetters n) : m = n := by
  have hread := CellRef.columnNumber?_columnLetters m hm
  rw [h, CellRef.columnNumber?_columnLetters n hn] at hread
  exact (Nat.succ.inj (Option.some.inj hread)).symm

/-! ## Changes by name -/

section

variable [Store σ]

/-- A text that is stored under the name of a data cell takes the place of the cell's own and changes no other cell. The
call succeeds, unless the store of the document refuses to save it. -/
theorem setNamed_data {name : String} (hname : coordOf name = .ok c) (hc : d.grid.extent.Admits c) {raw : String}
    {answer : Except Failure Coord} {d' : Document σ} (hset : d.setNamed name raw = (answer, d')) :
    d'.grid.extent = d.grid.extent ∧ (∀ b, d'.raw b = if b = c then raw else d.raw b) ∧
      (answer = .ok c ∨ ∃ s f, d.saveToStore = true ∧ d.store = some s ∧
        (Store.write s d.tableKey (d.grid.set c raw).snapshot.encode).1 = .error f ∧ answer = .error f) := by
  have hedit : d.checkEditable c = .ok () := (d.checkEditable_eq_ok_iff c).mpr hc
  rw [setNamed_ok hname] at hset
  obtain ⟨rfl, rfl⟩ := Prod.mk.inj hset
  refine ⟨d.extent_set c raw, d.raw_set hedit raw, ?_⟩
  rw [set_ok hedit]
  rcases save_cases { d with grid := d.grid.set c raw } with
    ⟨-, hsave⟩ | ⟨s, s', ⟨hsaves, -, hs⟩, ⟨-, hsave⟩ | ⟨f, hwrite, hsave⟩⟩ <;> rw [hsave]
  · exact .inl rfl
  · exact .inl rfl
  · exact .inr ⟨s, f, hsaves, hs, congrArg Prod.fst hwrite, rfl⟩

/-- A table has a row and a column more than the sheet, and an empty corner. Different columns have different headers.
For each cell of the sheet, the header of its column followed by the header of its row is a name of the cell. A text
that is stored under this name changes what is stored at that place of the table and nowhere else, and the call succeeds
unless the store of the document refuses to save it. -/
theorem headers_name (d : Document σ) (hcolumns : d.grid.extent.maxX < wordBound)
    (hrows : d.grid.extent.maxY < wordBound) :
    ∀ table, table = d.render ∨ table = d.renderRaw →
      table.length = d.grid.extent.maxY + 1 ∧ (∀ row ∈ table, row.length = d.grid.extent.maxX + 1) ∧
      table[0]?.bind (·[0]?) = some "" ∧
      (∀ x x', 1 ≤ x → x ≤ d.grid.extent.maxX → 1 ≤ x' → x' ≤ d.grid.extent.maxX →
        table[0]?.bind (·[x]?) = table[0]?.bind (·[x']?) → x = x') ∧
      ∀ x y, 1 ≤ x → x ≤ d.grid.extent.maxX → 1 ≤ y → y ≤ d.grid.extent.maxY → ∃ column row,
        table[0]?.bind (·[x]?) = some column ∧ table[y]?.bind (·[0]?) = some row ∧
        coordOf (column ++ row) = .ok ⟨x, y⟩ ∧
        ∀ raw answer d', d.setNamed (column ++ row) raw = (answer, d') →
          (answer = .ok ⟨x, y⟩ ∨ ∃ s f, d.saveToStore = true ∧ d.store = some s ∧
            (Store.write s d.tableKey (d.grid.set ⟨x, y⟩ raw).snapshot.encode).1 = .error f ∧ answer = .error f) ∧
          (∀ b, d'.raw b = if b = ⟨x, y⟩ then raw else d.raw b) ∧
          (∀ i j, d'.renderRaw[j]?.bind (·[i]?) =
            if i = x ∧ j = y then some raw else d.renderRaw[j]?.bind (·[i]?)) ∧
          d'.render[y]?.bind (·[x]?) = some (d'.display ⟨x, y⟩) := by
  intro table htable
  obtain ⟨cell, rfl⟩ : ∃ cell, table = d.renderWith cell := by
    rcases htable with rfl | rfl
    · exact ⟨d.display, rfl⟩
    · exact ⟨d.raw, rfl⟩
  refine ⟨d.length_renderWith cell, fun row => d.length_of_mem_renderWith cell,
    d.getElem?_renderWith_corner cell, ?_, ?_⟩
  · intro x x' hx hin hx' hin' hsame
    rw [d.getElem?_renderWith_column cell hx hin, d.getElem?_renderWith_column cell hx' hin', Option.some.injEq,
      String.ofList_inj] at hsame
    have hletters := columnLetters_inj (by omega) (by omega) hsame
    omega
  · intro x y hx hinx hy hiny
    have hadmits : d.grid.extent.Admits ⟨x, y⟩ := (Extent.admits_iff _ _).mpr ⟨hx, hinx, hy, hiny⟩
    have hname : coordOf (String.ofList (CellRef.columnLetters (x - 1)) ++ toString y) = .ok ⟨x, y⟩ := by
      have hword : x < wordBound ∧ y < wordBound := ⟨by omega, by omega⟩
      have hread := CellRef.coordOf_name (c := ⟨x, y⟩) ⟨hx, hy⟩ hword
      rwa [name_data hx hy] at hread
    refine ⟨_, _, d.getElem?_renderWith_column cell hx hinx, d.getElem?_renderWith_row cell hy hiny, hname, ?_⟩
    intro raw answer d' hset
    obtain ⟨hextent, hraw, hanswer⟩ := setNamed_data hname hadmits hset
    refine ⟨hanswer, hraw, fun i j => ?_, ?_⟩
    · have hold := d.getElem?_renderWith d.raw ⟨i, j⟩
      have hnew := d'.getElem?_renderWith d'.raw ⟨i, j⟩
      dsimp only at hold hnew
      rw [renderRaw, renderRaw, hold, hnew, hextent]
      by_cases hplace : i = x ∧ j = y
      · obtain ⟨rfl, rfl⟩ := hplace
        rw [if_pos hadmits.2, tableEntry_data _ hadmits.1, hraw, if_pos rfl, if_pos ⟨rfl, rfl⟩]
      · have hother : d'.raw ⟨i, j⟩ = d.raw ⟨i, j⟩ := by
          rw [hraw, if_neg (by simpa using hplace)]
        rw [if_neg hplace, tableEntry, tableEntry, hother]
    · exact d'.getElem?_renderWith_data d'.display hadmits.1 (hextent ▸ hadmits.2)

end

def wide : Document MemoryStore :=
  .new { Config.default with rows := 2, columns := 703 }

theorem headers_name_wide :
    wide.grid.extent = ⟨703, 2⟩ ∧ wide.render[0]?.bind (·[703]?) = some "AAA" ∧
      coordOf "AAA2" = .ok ⟨703, 2⟩ ∧ (wide.setNamed "AAA2" "x").1 = .ok ⟨703, 2⟩ ∧
      (wide.setNamed "AAA2" "x").2.renderRaw[2]?.bind (·[703]?) = some "x" ∧
      (wide.setNamed "AAA2" "x").2.renderRaw[2]?.bind (·[702]?) = some "" := by
  obtain ⟨hlength, -, -, -, hcells⟩ := headers_name wide (by decide) (by decide) wide.render (.inl rfl)
  obtain ⟨column, row, hcolumn, hrow, hname, hset⟩ := hcells 703 2 (by decide) (by decide) (by decide) (by decide)
  obtain rfl : "AAA" = column := by
    rw [render, getElem?_renderWith_column _ _ (by decide) (by decide)] at hcolumn
    exact (by decide +kernel : "AAA" = String.ofList (CellRef.columnLetters 702)).trans (Option.some.inj hcolumn)
  obtain rfl : "2" = row := by
    rw [render, getElem?_renderWith_row _ _ (by decide) (by decide)] at hrow
    exact Option.some.inj hrow
  obtain ⟨hanswer, -, htable, -⟩ := hset "x" _ _ rfl
  refine ⟨rfl, hcolumn, hname, ?_, (htable 703 2).trans (if_pos ⟨rfl, rfl⟩), (htable 702 2).trans ?_⟩
  · exact hanswer.resolve_right fun ⟨s, f, hsaves, hstore, _⟩ => by cases hstore
  · exact (if_neg (by decide)).trans (wide.getElem?_renderWith_data wide.raw (c := ⟨702, 2⟩) rfl rfl)

/-- A call by the name that the headers spell fails where the store refuses to save the sheet. -/
theorem not_always_saved :
    ¬∀ (d : Document FileStore), d.grid.extent.maxX < wordBound → d.grid.extent.maxY < wordBound →
      ∀ x y column row, 1 ≤ x → x ≤ d.grid.extent.maxX → 1 ≤ y → y ≤ d.grid.extent.maxY →
        d.render[0]?.bind (·[x]?) = some column → d.render[y]?.bind (·[0]?) = some row →
        ∀ raw, (d.setNamed (column ++ row) raw).1 = .ok ⟨x, y⟩ := by
  intro hall
  have hcolumn := stuck.getElem?_renderWith_column stuck.display (x := 1) (by decide) (by decide)
  have hrow := stuck.getElem?_renderWith_row stuck.display (y := 1) (by decide) (by decide)
  have hname : String.ofList (CellRef.columnLetters (1 - 1)) ++ toString 1 = "A1" := by decide +kernel
  have hsaved :=
    hall stuck (by decide) (by decide) 1 1 _ _ (by decide) (by decide) (by decide) (by decide) hcolumn hrow "x"
  rw [hname] at hsaved
  have hrefused : (stuck.setNamed "A1" "x").1 = .error .io := rfl
  cases hrefused.symm.trans hsaved

end Worksheet.Document
