import Worksheet.Document.Basic
import Worksheet.Proofs.Evaluation.Places
import Worksheet.Proofs.SortedMap
import Worksheet.Proofs.Sheet.SnapshotCodec

/-!
# The cells that a sheet stores

* `Snapshot.text?` : what a snapshot stores at a place; `Snapshot.mem_cells_iff`, `Snapshot.pairwise_cells`,
  `Snapshot.words_iff`;
* `Grid.text?_ofSnapshot`, `Grid.text?_set` : the cells of an opened and of a changed grid;
* `Grid.words_ofSnapshot`, `Grid.words_set` : their keys are words;
* `Snapshot.filled` : a snapshot without the rows that have no cells; `Snapshot.filled_eq_iff`;
* `Grid.filled_ofSnapshot`, `Grid.filled_set` : an opened and a changed grid have no such rows;
  `Grid.ofSnapshot_rows` : which is then opened again as it is;
* `Extent.coverStored` : one step of the extent of a snapshot;
* `storedExtent_ok_or_error` : either every stored cell lies within the limit, and so does their extent, or
  some cell is reported; `admits_of_storedExtent`, `le_of_storedExtent` : their extent is the least one that holds
  each of them.
-/

namespace Worksheet

/-! ## Snapshots -/

namespace Snapshot

def text? (s : Snapshot) (c : Coord) : Option String :=
  (s.get? c.y).bind fun row => row.get? c.x

theorem mem_cells_iff (s : Snapshot) (c : Coord) : c ∈ s.cells ↔ ∃ raw, s.text? c = some raw := by
  simp only [cells, List.mem_flatMap, List.mem_map, text?, Option.bind_eq_some_iff]
  constructor
  · rintro ⟨⟨y, row⟩, hrow, ⟨x, raw⟩, hcell, rfl⟩
    exact ⟨raw, row, (s.mem_entries_iff y row).mp hrow, (row.mem_entries_iff x raw).mp hcell⟩
  · rintro ⟨raw, row, hrow, hcell⟩
    exact ⟨(c.y, row), (s.mem_entries_iff c.y row).mpr hrow,
      (c.x, raw), (row.mem_entries_iff c.x raw).mpr hcell, rfl⟩

theorem pairwise_cells (s : Snapshot) : s.cells.Pairwise Coord.Before := by
  rw [cells, List.pairwise_flatMap]
  constructor
  · rintro ⟨y, row⟩ -
    rw [List.pairwise_map]
    exact row.ascending.imp fun h => .inr ⟨rfl, h⟩
  · refine s.ascending.imp fun {a b} hab c hc d hd => .inl ?_
    obtain ⟨i, -, rfl⟩ := List.mem_map.mp hc
    obtain ⟨j, -, rfl⟩ := List.mem_map.mp hd
    exact hab

theorem words_iff (s : Snapshot) :
    s.Words ↔ ∀ y row, s.get? y = some row →
      y < wordBound ∧ ∀ x raw, row.get? x = some raw → x < wordBound := by
  constructor
  · intro hs y row hrow
    have hwords := hs (y, row) ((s.mem_entries_iff y row).mpr hrow)
    exact ⟨hwords.1, fun x raw hcell => hwords.2 (x, raw) ((row.mem_entries_iff x raw).mpr hcell)⟩
  · rintro h ⟨y, row⟩ hrow
    have hwords := h y row ((s.mem_entries_iff y row).mp hrow)
    exact ⟨hwords.1, fun e hcell => hwords.2 e.1 e.2 ((row.mem_entries_iff e.1 e.2).mp hcell)⟩

end Snapshot

/-! ## Grids -/

namespace Grid

theorem get_eq_text? (g : Grid) (c : Coord) : g.get c = (g.rows.text? c).getD "" := by
  unfold get row Snapshot.text?
  cases g.rows.get? c.y <;> rfl

/-- Rows without cells are left out, which stores nothing less. -/
theorem text?_ofSnapshot (s : Snapshot) (extent : Extent) (c : Coord) :
    (ofSnapshot s extent).rows.text? c = s.text? c := by
  show ((s.filter fun row => !row.isEmpty).get? c.y).bind _ = (s.get? c.y).bind _
  rw [SortedMap.get?_filter]
  cases hrow : s.get? c.y with
  | none => rfl
  | some row =>
    cases hempty : row.isEmpty with
    | false => simp [Option.filter, hempty]
    | true =>
      have hnone : row.get? c.x = none := by
        rw [SortedMap.get?, List.isEmpty_iff.mp hempty]
        rfl
      simp [Option.filter, hempty, hnone]

theorem text?_set (g : Grid) (c d : Coord) (raw : String) :
    (g.set c raw).rows.text? d = if d = c then some raw else g.rows.text? d := by
  obtain ⟨cx, cy⟩ := c
  obtain ⟨dx, dy⟩ := d
  simp only [Snapshot.text?, set, row, SortedMap.get?_insert, Coord.mk.injEq]
  by_cases hy : dy = cy
  · subst hy
    simp only [if_true, Option.bind_some, SortedMap.get?_insert, and_true]
    split
    · rfl
    · cases g.rows.get? dy <;> rfl
  · simp [hy]

theorem words_ofSnapshot {s : Snapshot}
    (hs : ∀ c raw, s.text? c = some raw → c.x < wordBound ∧ c.y < wordBound) (extent : Extent) :
    (ofSnapshot s extent).rows.Words := by
  rw [Snapshot.words_iff]
  intro y row hrow
  have hfilter : (s.get? y).filter (fun row => !row.isEmpty) = some row := by
    rw [← SortedMap.get?_filter]
    exact hrow
  obtain ⟨hget, hne⟩ := Option.filter_eq_some_iff.mp hfilter
  have hcell : ∀ x raw, row.get? x = some raw → x < wordBound ∧ y < wordBound := fun x raw hx =>
    hs ⟨x, y⟩ raw (by rw [Snapshot.text?, hget, Option.bind_some, hx])
  -- a row that is kept has a cell, which bounds the row's own key
  obtain ⟨x, raw, hx⟩ := row.isEmpty_eq_false_iff.mp (by simpa using hne)
  exact ⟨(hcell x raw hx).2, fun x raw hx => (hcell x raw hx).1⟩

theorem words_set {g : Grid} (hg : g.rows.Words) {c : Coord} (hx : c.x < wordBound) (hy : c.y < wordBound)
    (raw : String) : (g.set c raw).rows.Words := by
  rw [Snapshot.words_iff] at hg ⊢
  intro y row hrow
  have hinsert : (if y = c.y then some ((g.row c.y).insert c.x raw) else g.rows.get? y) = some row := by
    rw [← SortedMap.get?_insert]
    exact hrow
  split at hinsert
  · next heq =>
    obtain rfl := Option.some.inj hinsert
    refine ⟨heq ▸ hy, fun x text hcell => ?_⟩
    rw [SortedMap.get?_insert] at hcell
    split at hcell
    · next hcolumn => exact hcolumn ▸ hx
    · rw [Grid.row] at hcell
      cases hold : g.rows.get? c.y with
      | none => simp [hold] at hcell
      | some old => exact (hg c.y old hold).2 x text (by rwa [hold] at hcell)
  · exact hg y row hinsert

end Grid

/-! ## Rows without cells -/

def Snapshot.filled (s : Snapshot) : Snapshot :=
  s.filter fun row => !row.isEmpty

theorem Snapshot.filled_eq_iff (s : Snapshot) :
    s.filled = s ↔ ∀ y row, s.get? y = some row → row.isEmpty = false := by
  constructor
  · intro h y row hrow
    rw [← h, filled, SortedMap.get?_filter, Option.filter_eq_some_iff] at hrow
    simpa using hrow.2
  · intro h
    apply SortedMap.ext
    refine List.filter_eq_self.mpr fun e he => ?_
    simp [h e.1 e.2 ((s.mem_entries_iff e.1 e.2).mp he)]

theorem Grid.filled_ofSnapshot (s : Snapshot) (extent : Extent) :
    (ofSnapshot s extent).rows.filled = (ofSnapshot s extent).rows := by
  rw [Snapshot.filled_eq_iff]
  intro y row hrow
  have hrow' : (s.get? y).filter (fun row => !row.isEmpty) = some row := by
    rw [← SortedMap.get?_filter]
    exact hrow
  simpa using (Option.filter_eq_some_iff.mp hrow').2

theorem Grid.filled_set {g : Grid} (hg : g.rows.filled = g.rows) (c : Coord) (raw : String) :
    (g.set c raw).rows.filled = (g.set c raw).rows := by
  rw [Snapshot.filled_eq_iff] at hg ⊢
  intro y row hrow
  have hinsert : (if y = c.y then some ((g.row c.y).insert c.x raw) else g.rows.get? y) = some row := by
    rw [← SortedMap.get?_insert]
    exact hrow
  split at hinsert
  · obtain rfl := Option.some.inj hinsert
    rw [SortedMap.isEmpty_eq_false_iff]
    exact ⟨c.x, raw, by rw [SortedMap.get?_insert, if_pos rfl]⟩
  · exact hg y row hinsert

theorem Grid.ofSnapshot_rows {g : Grid} (hg : g.rows.filled = g.rows) : ofSnapshot g.rows g.extent = g.markClean :=
  congrArg (fun rows => Grid.mk rows g.extent false) hg

/-! ## Extents -/

/-- Whether a stored cell may be opened: it is no header and lies within the limit. -/
def Extent.Admits (limit : Extent) (c : Coord) : Prop :=
  c.isHeader = false ∧ limit.contains c = true

namespace Extent

theorem admits_iff (e : Extent) (c : Coord) :
    e.Admits c ↔ 1 ≤ c.x ∧ c.x ≤ e.maxX ∧ 1 ≤ c.y ∧ c.y ≤ e.maxY := by
  unfold Admits Coord.isHeader
  rw [contains_iff, Bool.or_eq_false_iff, decide_eq_false_iff_not, decide_eq_false_iff_not]
  omega

theorem Admits.mono {e f : Extent} {c : Coord} (h : e.Admits c) (hx : e.maxX ≤ f.maxX) (hy : e.maxY ≤ f.maxY) :
    f.Admits c := by
  rw [admits_iff] at h ⊢
  omega

end Extent

/-- The extent that also holds a stored cell, where that one may be opened. -/
def Extent.coverStored (limit extent : Extent) (c : Coord) : Except Failure Extent :=
  if c.isHeader || !limit.contains c then .error (.storedCellOutOfBounds c limit)
  else .ok (extent.cover ⟨c.x, c.y⟩)

section

variable {limit : Extent}

theorem storedExtent_eq (s : Snapshot) (limit : Extent) :
    storedExtent s limit = s.cells.foldlM limit.coverStored ⟨0, 0⟩ := rfl

theorem coverStored_of_admits {c : Coord} (hc : limit.Admits c) (extent : Extent) :
    limit.coverStored extent c = .ok (extent.cover ⟨c.x, c.y⟩) := by
  rw [Extent.coverStored, hc.1, hc.2]
  rfl

theorem coverStored_of_not_admits {c : Coord} (hc : ¬limit.Admits c) (extent : Extent) :
    limit.coverStored extent c = .error (.storedCellOutOfBounds c limit) := by
  refine if_pos ?_
  rw [Extent.Admits] at hc
  cases hheader : c.isHeader <;> cases hlimit : limit.contains c <;> simp_all

theorem foldlM_cover_ok_or_error (cells : List Coord) {extent : Extent} (hx : extent.maxX ≤ limit.maxX)
    (hy : extent.maxY ≤ limit.maxY) :
    (∃ e : Extent, cells.foldlM limit.coverStored extent = .ok e ∧
      e.maxX ≤ limit.maxX ∧ e.maxY ≤ limit.maxY ∧ ∀ c ∈ cells, limit.Admits c) ∨
    ∃ c ∈ cells, ¬limit.Admits c ∧
      cells.foldlM limit.coverStored extent = .error (.storedCellOutOfBounds c limit) := by
  induction cells generalizing extent with
  | nil => exact .inl ⟨extent, rfl, hx, hy, by simp⟩
  | cons c cells ih =>
    rw [List.foldlM_cons]
    by_cases hc : limit.Admits c
    · have hle := (limit.contains_iff c).mp hc.2
      rw [coverStored_of_admits hc]
      have hcoverX : (extent.cover ⟨c.x, c.y⟩).maxX ≤ limit.maxX := Nat.max_le.mpr ⟨hx, hle.1⟩
      have hcoverY : (extent.cover ⟨c.x, c.y⟩).maxY ≤ limit.maxY := Nat.max_le.mpr ⟨hy, hle.2⟩
      rcases ih hcoverX hcoverY with ⟨e, he, hex, hey, hall⟩ | ⟨b, hb, hbad, herror⟩
      · exact .inl ⟨e, he, hex, hey, List.forall_mem_cons.mpr ⟨hc, hall⟩⟩
      · exact .inr ⟨b, List.mem_cons_of_mem c hb, hbad, herror⟩
    · rw [coverStored_of_not_admits hc]
      exact .inr ⟨c, List.mem_cons_self, hc, rfl⟩

/-- Either every stored cell may be opened, and their extent lies within the limit, or one is reported. -/
theorem storedExtent_ok_or_error (s : Snapshot) (limit : Extent) :
    (∃ e, storedExtent s limit = .ok e ∧ e.maxX ≤ limit.maxX ∧ e.maxY ≤ limit.maxY ∧
      ∀ c ∈ s.cells, limit.Admits c) ∨
    ∃ c ∈ s.cells, ¬limit.Admits c ∧ storedExtent s limit = .error (.storedCellOutOfBounds c limit) :=
  foldlM_cover_ok_or_error s.cells (Nat.zero_le _) (Nat.zero_le _)

theorem admits_of_foldlM_cover {cells : List Coord} {extent e : Extent}
    (h : cells.foldlM limit.coverStored extent = .ok e) :
    extent.maxX ≤ e.maxX ∧ extent.maxY ≤ e.maxY ∧ ∀ c ∈ cells, e.Admits c := by
  induction cells generalizing extent with
  | nil =>
    obtain rfl := Except.ok.inj h
    exact ⟨Nat.le_refl _, Nat.le_refl _, by simp⟩
  | cons c cells ih =>
    rw [List.foldlM_cons] at h
    by_cases hc : limit.Admits c
    · rw [coverStored_of_admits hc] at h
      obtain ⟨hx, hy, hall⟩ := ih h
      obtain ⟨hx, hcx⟩ := Nat.max_le.mp hx
      obtain ⟨hy, hcy⟩ := Nat.max_le.mp hy
      exact ⟨hx, hy, List.forall_mem_cons.mpr ⟨⟨hc.1, (e.contains_iff c).mpr ⟨hcx, hcy⟩⟩, hall⟩⟩
    · rw [coverStored_of_not_admits hc] at h
      cases h

theorem admits_of_storedExtent {s : Snapshot} {limit e : Extent} (h : storedExtent s limit = .ok e) {c : Coord}
    (hc : c ∈ s.cells) : e.Admits c :=
  (admits_of_foldlM_cover h).2.2 c hc

theorem le_of_foldlM_cover {cells : List Coord} {extent e f : Extent}
    (h : cells.foldlM limit.coverStored extent = .ok e)
    (hx : extent.maxX ≤ f.maxX) (hy : extent.maxY ≤ f.maxY) (hcells : ∀ c ∈ cells, f.contains c = true) :
    e.maxX ≤ f.maxX ∧ e.maxY ≤ f.maxY := by
  induction cells generalizing extent with
  | nil =>
    obtain rfl := Except.ok.inj h
    exact ⟨hx, hy⟩
  | cons c cells ih =>
    obtain ⟨hc, hrest⟩ := List.forall_mem_cons.mp hcells
    obtain ⟨hcx, hcy⟩ := (f.contains_iff c).mp hc
    rw [List.foldlM_cons] at h
    by_cases hadmits : limit.Admits c
    · rw [coverStored_of_admits hadmits] at h
      exact ih h (Nat.max_le.mpr ⟨hx, hcx⟩) (Nat.max_le.mpr ⟨hy, hcy⟩) hrest
    · rw [coverStored_of_not_admits hadmits] at h
      cases h

/-- The extent of a snapshot is the least one that holds its cells. -/
theorem le_of_storedExtent {s : Snapshot} {limit e f : Extent} (h : storedExtent s limit = .ok e)
    (hcells : ∀ c ∈ s.cells, f.contains c = true) : e.maxX ≤ f.maxX ∧ e.maxY ≤ f.maxY :=
  le_of_foldlM_cover h (Nat.zero_le _) (Nat.zero_le _) hcells

end

end Worksheet
