import Mathlib.Order.Bounds.Defs
import Worksheet.Proofs.Document.Opening

/-!
# Which sheets are opened, and how large

A sheet that is kept in a store is opened if its text is a snapshot and each cell there lies within the limit. It is
then as small as its cells and the settings let it be.

* `Snapshot.cells_filled` : rows without cells add none;
* `Snapshot.FirstPast`, `storedExtent_eq_error_iff` : the cell that is reported is the first one past the limit;
* `Extent.cover_le_iff`, `isLeast_cover` : the extent of an opened sheet is the least one with room for its cells;
* `Document.grid_load` : what is opened depends on the rows that have cells;
* `Document.load_cases` : what comes of opening a sheet.
-/

namespace Worksheet

/-! ## The cells of a snapshot -/

namespace Snapshot

theorem cells_filled (s : Snapshot) : s.filled.cells = s.cells := by
  refine flatMap_filter_of_nil ?_
  rintro ⟨y, row⟩ - hempty
  have hnil : row.entries = [] := by simpa [SortedMap.isEmpty] using hempty
  show row.entries.map _ = []
  rw [hnil, List.map_nil]

theorem mem_cells_iff_isSome (s : Snapshot) (c : Coord) : c ∈ s.cells ↔ (s.text? c).isSome = true := by
  rw [mem_cells_iff, Option.isSome_iff_exists]

instance (limit : Extent) (c : Coord) : Decidable (limit.Admits c) :=
  inferInstanceAs (Decidable (_ ∧ _))

/-- Whether a stored cell may not be opened, and no cell before it, row by row, is such a one. -/
structure FirstPast (s : Snapshot) (limit : Extent) (c : Coord) : Prop where
  stored : (s.text? c).isSome = true
  past : ¬limit.Admits c
  before : ∀ b, (s.text? b).isSome = true → b.Before c → limit.Admits b

end Snapshot

/-! ## The cell that is reported -/

theorem foldlM_cover_eq_error_iff {limit : Extent} {cells : List Coord} (h : cells.Pairwise Coord.Before)
    {extent : Extent} {f : Failure} :
    cells.foldlM limit.coverStored extent = .error f ↔
      ∃ c ∈ cells, ¬limit.Admits c ∧ (∀ b ∈ cells, b.Before c → limit.Admits b) ∧
        f = .storedCellOutOfBounds c limit := by
  induction h generalizing extent with
  | nil => exact iff_of_false (fun h => by cases h) (by simp)
  | @cons c cells hc _ ih =>
    rw [List.foldlM_cons]
    by_cases hadmits : limit.Admits c
    · rw [coverStored_of_admits hadmits]
      refine ih.trans ⟨?_, ?_⟩
      · rintro ⟨b, hb, hpast, hbefore, rfl⟩
        exact ⟨b, List.mem_cons_of_mem c hb, hpast, List.forall_mem_cons.mpr ⟨fun _ => hadmits, hbefore⟩, rfl⟩
      · rintro ⟨b, hb, hpast, hbefore, rfl⟩
        rcases List.mem_cons.mp hb with rfl | hb
        · exact absurd hadmits hpast
        · exact ⟨b, hb, hpast, (List.forall_mem_cons.mp hbefore).2, rfl⟩
    · rw [coverStored_of_not_admits hadmits]
      constructor
      · intro herror
        refine ⟨c, List.mem_cons_self, hadmits, fun b hb hbc => ?_, (Except.error.inj herror).symm⟩
        rcases List.mem_cons.mp hb with rfl | hb
        · exact absurd hbc (Coord.Before.irrefl b)
        · exact absurd hbc (hc b hb).asymm
      · rintro ⟨b, hb, hpast, hbefore, rfl⟩
        rcases List.mem_cons.mp hb with rfl | hb
        · rfl
        · exact absurd (hbefore c List.mem_cons_self (hc b hb)) hadmits

theorem storedExtent_eq_error_iff {s : Snapshot} {limit : Extent} {f : Failure} :
    storedExtent s limit = .error f ↔ ∃ c, s.FirstPast limit c ∧ f = .storedCellOutOfBounds c limit := by
  refine (foldlM_cover_eq_error_iff s.pairwise_cells).trans ⟨?_, ?_⟩
  · rintro ⟨c, hc, hpast, hbefore, rfl⟩
    exact ⟨c, ⟨(s.mem_cells_iff_isSome c).mp hc, hpast, fun b hb => hbefore b ((s.mem_cells_iff_isSome b).mpr hb)⟩, rfl⟩
  · rintro ⟨c, hfirst, rfl⟩
    exact ⟨c, (s.mem_cells_iff_isSome c).mpr hfirst.stored, hfirst.past,
      fun b hb => hfirst.before b ((s.mem_cells_iff_isSome b).mp hb), rfl⟩

/-! ## The extent -/

instance : LE Extent :=
  ⟨fun e f => e.maxX ≤ f.maxX ∧ e.maxY ≤ f.maxY⟩

namespace Extent

theorem cover_le_iff {e f limit : Extent} : e.cover f ≤ limit ↔ e ≤ limit ∧ f ≤ limit := by
  show max e.maxX f.maxX ≤ limit.maxX ∧ max e.maxY f.maxY ≤ limit.maxY ↔
    (e.maxX ≤ limit.maxX ∧ e.maxY ≤ limit.maxY) ∧ f.maxX ≤ limit.maxX ∧ f.maxY ≤ limit.maxY
  omega

theorem le_cover_left (e f : Extent) : e ≤ e.cover f :=
  ⟨Nat.le_max_left _ _, Nat.le_max_left _ _⟩

theorem common_le_right (e f : Extent) : e.common f ≤ f :=
  ⟨Nat.min_le_right _ _, Nat.min_le_right _ _⟩

end Extent

/-- The extent of a sheet that is opened is the least one that covers the one it starts with and holds each stored
cell. -/
theorem isLeast_cover {s : Snapshot} {limit e : Extent} (h : storedExtent s limit = .ok e) (start : Extent) :
    IsLeast {f | start ≤ f ∧ ∀ c, (s.text? c).isSome = true → f.contains c = true} (start.cover e) := by
  constructor
  · refine ⟨start.le_cover_left e, fun c hc => ?_⟩
    have hadmits : e.Admits c := admits_of_storedExtent h ((s.mem_cells_iff_isSome c).mpr hc)
    exact (hadmits.mono (Nat.le_max_right _ _) (Nat.le_max_right _ _)).2
  · rintro f ⟨hstart, hcells⟩
    exact Extent.cover_le_iff.mpr
      ⟨hstart, le_of_storedExtent h fun c hc => hcells c ((s.mem_cells_iff_isSome c).mp hc)⟩

/-! ## Opening -/

namespace Document

section

variable {σ : Type} [Store σ] {config : Config} (hsaves : config.saveToStore = true)
include hsaves

theorem load_of_undecoded {store : σ} {text : String} (hread : Store.read store config.tableKey = .ok (some text))
    (hdecode : Snapshot.decode? text = none) : load config store = .error .snapshot := by
  rw [load, if_pos hsaves, loadSnapshot, hread]
  simp only [bind, Except.bind, hdecode]

theorem grid_load {store : σ} {s : Snapshot} (hs : loadSnapshot store config.tableKey = .ok s) :
    (load config store).map (·.grid) =
      (storedExtent s.filled config.limit).map fun e => ⟨s.filled, config.extent.cover e, false⟩ := by
  have hfilled : storedExtent s.filled config.limit = storedExtent s config.limit := by
    rw [storedExtent_eq, storedExtent_eq, s.cells_filled]
  rw [load_of_loadSnapshot hsaves hs, hfilled]
  cases storedExtent s config.limit <;> rfl

/-- A sheet in memory whose text is no snapshot is not opened. One with a cell that is a header or lies past the limit
is not opened either, and the first such cell is reported, row by row. Any other sheet is opened unmodified with the
texts that are stored, and its extent is the least one that covers the size in the settings, as far as the limit
allows it, and every stored cell. Rows without cells change nothing of this. -/
theorem load_cases (store : MemoryStore) :
    (∀ text, store.get? config.tableKey = some text → Snapshot.decode? text = none →
      load config store = .error .snapshot) ∧
    ∀ s, Snapshot.ofHeld? (store.get? config.tableKey) = some s →
      ((∃ c, (s.text? c).isSome = true ∧ ¬config.limit.Admits c) →
        ∃ c, s.FirstPast config.limit c ∧ load config store = .error (.storedCellOutOfBounds c config.limit)) ∧
      ((∀ c, (s.text? c).isSome = true → config.limit.Admits c) →
        ∃ d, load config store = .ok d ∧ d.grid.modified = false ∧
          (∀ c, d.grid.rows.text? c = s.text? c ∧ d.raw c = (s.text? c).getD "") ∧
          IsLeast {e | ⟨min config.columns config.maxColumns, min config.rows config.maxRows⟩ ≤ e ∧
            ∀ c, (s.text? c).isSome = true → e.contains c = true} d.grid.extent ∧
          d.grid.extent ≤ ⟨config.maxColumns, config.maxRows⟩) ∧
      ∀ (store' : MemoryStore) (s' : Snapshot), Snapshot.ofHeld? (store'.get? config.tableKey) = some s' →
        s'.filled = s.filled → (load config store').map (·.grid) = (load config store).map (·.grid) := by
  refine ⟨fun text hget hdecode => ?_, fun s hheld => ?_⟩
  · exact load_of_undecoded hsaves (congrArg Except.ok hget) hdecode
  · have hs : loadSnapshot store config.tableKey = .ok s := loadSnapshot_eq_ok_iff.mpr ⟨_, rfl, hheld⟩
    have hload := load_of_loadSnapshot hsaves hs
    refine ⟨fun ⟨b, hb, hpast⟩ => ?_, fun hall => ?_, fun store' s' hheld' hfilled => ?_⟩
    · rcases storedExtent_ok_or_error s config.limit with ⟨e, -, -, -, hall⟩ | ⟨c, -, -, herror⟩
      · exact absurd (hall b ((s.mem_cells_iff_isSome b).mpr hb)) hpast
      · obtain ⟨c', hfirst, hc'⟩ := storedExtent_eq_error_iff.mp herror
        obtain rfl : c = c' := (Failure.storedCellOutOfBounds.inj hc').1
        exact ⟨c, hfirst, by rw [hload, herror]; rfl⟩
    · rcases storedExtent_ok_or_error s config.limit with ⟨e, he, hx, hy, -⟩ | ⟨c, hc, hpast, -⟩
      · refine ⟨ofSnapshot config s (config.extent.cover e) (some store), by rw [hload, he]; rfl, rfl, fun c => ?_,
          isLeast_cover he _, Extent.cover_le_iff.mpr ⟨Extent.common_le_right _ _, hx, hy⟩⟩
        have htext := Grid.text?_ofSnapshot s (config.extent.cover e) c
        exact ⟨htext, (Grid.get_eq_text? _ c).trans (congrArg (·.getD "") htext)⟩
      · exact absurd (hall c ((s.mem_cells_iff_isSome c).mp hc)) hpast
    · have hs' : loadSnapshot store' config.tableKey = .ok s' := loadSnapshot_eq_ok_iff.mpr ⟨_, rfl, hheld'⟩
      rw [grid_load hsaves hs', grid_load hsaves hs, hfilled]

end

def narrow : Config :=
  { Config.default with rows := 3, columns := 9, maxRows := 9, maxColumns := 4 }

def cellAndRow : Snapshot :=
  .ofEntries [(6, .ofEntries [(2, "=1")]), (12, .ofEntries [])]

/-- A snapshot with cells past the limit of these settings, the first of them in the second column. -/
def cellsPast : Snapshot :=
  .ofEntries [(9, .ofEntries [(4, "x")]), (10, .ofEntries [(2, "y"), (7, "z")]), (11, .ofEntries [(1, "")])]

theorem load_cases_narrow :
    narrow.saveToStore = true ∧
      load narrow (MemoryStore.empty.insert narrow.tableKey "[]") = .error .snapshot ∧
      load narrow (MemoryStore.empty.insert narrow.tableKey cellsPast.encode) =
        .error (.storedCellOutOfBounds ⟨2, 10⟩ ⟨4, 9⟩) ∧
      ∃ d, load narrow (MemoryStore.empty.insert narrow.tableKey cellAndRow.encode) = .ok d ∧
        d.grid.modified = false ∧ d.grid.extent = ⟨4, 6⟩ := by
  have hget : ∀ text, (MemoryStore.empty.insert narrow.tableKey text).get? narrow.tableKey = some text := fun text => by
    rw [MemoryStore.get?_insert, if_pos rfl]
  have hpast : Snapshot.ofHeld? (some cellsPast.encode) = some cellsPast := Snapshot.decode?_encode (by decide)
  have hcells : ∀ c, (cellAndRow.text? c).isSome = true → c = ⟨2, 6⟩ := fun c hc =>
    List.mem_singleton.mp ((cellAndRow.mem_cells_iff_isSome c).mpr hc)
  have hcell : Snapshot.ofHeld? (some cellAndRow.encode) = some cellAndRow := Snapshot.decode?_encode (by decide)
  refine ⟨rfl, (load_cases rfl _).1 "[]" (hget _) (by decide +kernel), ?_, ?_⟩
  · obtain ⟨c, hfirst, herror⟩ := ((@load_cases narrow rfl _).2 cellsPast (by rw [hget, hpast])).1
      ⟨⟨2, 10⟩, rfl, by decide⟩
    have hc : c ∈ [⟨4, 9⟩, ⟨2, 10⟩, ⟨7, 10⟩, ⟨1, 11⟩] := (cellsPast.mem_cells_iff_isSome c).mpr hfirst.stored
    have hsecond : ¬(⟨2, 10⟩ : Coord).Before c := fun hbefore =>
      absurd (hfirst.before ⟨2, 10⟩ rfl hbefore) (by decide)
    obtain rfl : c = ⟨2, 10⟩ := by
      rcases List.mem_cons.mp hc with rfl | hc
      · exact absurd (by decide) hfirst.past
      rcases List.mem_cons.mp hc with rfl | hc
      · rfl
      rcases List.mem_pair.mp hc with rfl | rfl
      · exact absurd (.inr (by decide)) hsecond
      · exact absurd (.inl (by decide)) hsecond
    exact herror
  · obtain ⟨d, hload, hclean, -, hleast, -⟩ :=
      ((@load_cases narrow rfl _).2 cellAndRow (by rw [hget, hcell])).2.1
        fun c hc => by rw [hcells c hc]; decide
    refine ⟨d, hload, hclean, ?_⟩
    obtain ⟨hwide, hhigh⟩ : d.grid.extent ≤ ⟨4, 6⟩ :=
      hleast.2 ⟨⟨by decide, by decide⟩, fun c hc => by rw [hcells c hc]; decide⟩
    obtain ⟨⟨hconfigured, -⟩, hall⟩ := hleast.1
    obtain ⟨-, hstored⟩ := (d.grid.extent.contains_iff _).mp (hall ⟨2, 6⟩ rfl)
    have hx : d.grid.extent.maxX = 4 := Nat.le_antisymm hwide hconfigured
    have hy : d.grid.extent.maxY = 6 := Nat.le_antisymm hhigh hstored
    calc d.grid.extent = ⟨d.grid.extent.maxX, d.grid.extent.maxY⟩ := rfl
      _ = ⟨4, 6⟩ := by rw [hx, hy]

end Document

end Worksheet
