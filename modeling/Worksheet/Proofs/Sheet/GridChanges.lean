import Mathlib.Data.List.Infix
import Mathlib.Data.Set.Card
import Worksheet.Proofs.Sheet.StoredCells

/-!
# A grid as a plain map

Whatever is done to a grid, it shows a map of the texts that were stored last, and counts of how often it grew.

* `Grid.Change`, `Grid.changeAll` : the changes of a grid;
* `Grid.lastText?`, `Grid.storedAfter?`, `Grid.Unsaved` : what a list of changes stores, and whether the last mark
  came before that;
* `Grid.size_eq_ncard`, `Grid.hasRow_iff` : the size counts the places where something is stored, and a row is there
  if something is stored in it;
* `Grid.Recalls` : the grid is the plain map of its changes; `Grid.Recalls.change`, `Grid.recalls_changeAll` : one
  change and any number of them keep it so;
* `Grid.changeAll_observed` : all that can be read from a grid.
-/

namespace Worksheet

/-! ## Places of a snapshot -/

namespace Snapshot

theorem length_cells (s : Snapshot) : s.cells.length = (s.entries.flatMap fun e => e.2.entries).length := by
  rw [cells, List.length_flatMap, List.length_flatMap]
  simp only [List.length_map]

theorem nodup_cells (s : Snapshot) : s.cells.Nodup := by
  refine s.pairwise_cells.imp ?_
  rintro c _ hbefore rfl
  exact Coord.Before.irrefl c hbefore

end Snapshot

namespace Grid

/-- The size of a grid is the number of places where something is stored, be it the empty text. -/
theorem size_eq_ncard (g : Grid) :
    {c | (g.rows.text? c).isSome}.Finite ∧ g.size = {c | (g.rows.text? c).isSome}.ncard := by
  have hcells : {c | (g.rows.text? c).isSome} = (g.rows.cells.toFinset : Set Coord) := by
    ext c
    show (g.rows.text? c).isSome = true ↔ _
    rw [Option.isSome_iff_exists, Finset.mem_coe, List.mem_toFinset, Snapshot.mem_cells_iff]
  rw [hcells]
  refine ⟨g.rows.cells.toFinset.finite_toSet, ?_⟩
  rw [Set.ncard_coe_finset, List.toFinset_card_of_nodup g.rows.nodup_cells, Snapshot.length_cells, size]

theorem hasRow_iff {g : Grid} (h : g.rows.filled = g.rows) (y : Nat) :
    g.hasRow y = true ↔ ∃ x, (g.rows.text? ⟨x, y⟩).isSome := by
  rw [hasRow, SortedMap.contains, Option.isSome_iff_exists]
  constructor
  · rintro ⟨row, hrow⟩
    obtain ⟨x, raw, hx⟩ := row.isEmpty_eq_false_iff.mp ((Snapshot.filled_eq_iff _).mp h y row hrow)
    exact ⟨x, Option.isSome_of_eq_some (by rw [Snapshot.text?, hrow, Option.bind_some, hx])⟩
  · rintro ⟨x, hx⟩
    obtain ⟨raw, hraw⟩ := Option.isSome_iff_exists.mp hx
    obtain ⟨row, hrow, -⟩ := Option.bind_eq_some_iff.mp hraw
    exact ⟨row, hrow⟩

/-! ## Changes -/

/-- A change of a grid. -/
inductive Change
  | set (c : Coord) (raw : String)
  | growRows
  | growColumns
  | markClean
  deriving DecidableEq, Repr

def change (g : Grid) : Change → Grid
  | .set c raw => g.set c raw
  | .growRows => g.growRows
  | .growColumns => g.growColumns
  | .markClean => g.markClean

def changeAll (g : Grid) (changes : List Change) : Grid :=
  changes.foldl change g

theorem changeAll_concat (g : Grid) (changes : List Change) (a : Change) :
    g.changeAll (changes ++ [a]) = (g.changeAll changes).change a := by
  rw [changeAll, List.foldl_append]
  rfl

def Change.text? (c : Coord) : Change → Option String
  | .set d raw => if c = d then some raw else none
  | .growRows | .growColumns | .markClean => none

def lastText? (changes : List Change) (c : Coord) : Option String :=
  changes.reverse.findSome? (Change.text? c)

/-- What a place holds after changes of a snapshot: what they stored there last, or else what it held before. -/
def storedAfter? (s : Snapshot) (changes : List Change) (c : Coord) : Option String :=
  (lastText? changes c).or (s.text? c)

/-- Whether text was stored after the last mark. -/
def Unsaved (changes : List Change) : Prop :=
  ∃ before c raw after, changes = before ++ .set c raw :: after ∧ .markClean ∉ after

theorem storedAfter?_concat (s : Snapshot) (changes : List Change) (a : Change) (c : Coord) :
    storedAfter? s (changes ++ [a]) c = (a.text? c).or (storedAfter? s changes c) := by
  rw [storedAfter?, lastText?, List.reverse_append, List.reverse_singleton, List.singleton_append,
    List.findSome?_cons]
  cases a.text? c <;> rfl

theorem not_unsaved_nil : ¬Unsaved [] := by
  rintro ⟨before, c, raw, after, h, -⟩
  simp at h

theorem unsaved_concat (changes : List Change) (a : Change) :
    Unsaved (changes ++ [a]) ↔ (∃ c raw, a = .set c raw) ∨ a ≠ .markClean ∧ Unsaved changes := by
  constructor
  · rintro ⟨before, c, raw, after, h, hafter⟩
    -- the last change is the one that stored the text, or it came after that one
    rcases List.eq_nil_or_concat' after with rfl | ⟨after, b, rfl⟩
    · obtain ⟨-, hlast⟩ := List.append_inj' h rfl
      exact .inl ⟨c, raw, List.singleton_inj.mp hlast⟩
    · rw [← List.cons_append, ← List.append_assoc] at h
      obtain ⟨hchanges, hlast⟩ := List.append_inj' h rfl
      obtain rfl := List.singleton_inj.mp hlast
      refine .inr ⟨fun hmark => hafter (by simp [hmark]), before, c, raw, after, hchanges, fun hmem => hafter ?_⟩
      exact List.mem_append_left _ hmem
  · rintro (⟨c, raw, rfl⟩ | ⟨ha, before, c, raw, after, rfl, hafter⟩)
    · exact ⟨changes, c, raw, [], rfl, List.not_mem_nil⟩
    · refine ⟨before, c, raw, after ++ [a], by simp, ?_⟩
      rw [List.mem_append, List.mem_singleton]
      rintro (hmem | rfl)
      · exact hafter hmem
      · exact ha rfl

/-! ## One change -/

/-- A grid that came about by changes is a plain map of the texts that they stored last, with their counts. -/
structure Recalls (g : Grid) (s : Snapshot) (extent : Extent) (changes : List Change) : Prop where
  text : ∀ c, g.rows.text? c = storedAfter? s changes c
  filled : g.rows.filled = g.rows
  modified : g.modified = true ↔ Unsaved changes
  columns : g.extent.maxX = (extent.maxX + changes.count .growColumns) % wordBound
  rows : g.extent.maxY = (extent.maxY + changes.count .growRows) % wordBound

variable {g : Grid} {s : Snapshot} {extent : Extent} {changes : List Change}

theorem text?_change (g : Grid) (a : Change) (c : Coord) :
    (g.change a).rows.text? c = (a.text? c).or (g.rows.text? c) := by
  cases a with
  | set d raw =>
    rw [change, text?_set, Change.text?]
    split <;> rfl
  | growRows | growColumns | markClean => rfl

theorem filled_change (h : g.rows.filled = g.rows) (a : Change) :
    (g.change a).rows.filled = (g.change a).rows := by
  cases a with
  | set c raw => exact filled_set h c raw
  | growRows | growColumns | markClean => exact h

theorem nextWord_mod (n : Nat) : nextWord (n % wordBound) = (n + 1) % wordBound :=
  Nat.mod_add_mod n wordBound 1

theorem Recalls.change (h : g.Recalls s extent changes) (a : Change) :
    (g.change a).Recalls s extent (changes ++ [a]) where
  text c := by rw [text?_change, h.text, storedAfter?_concat]
  filled := filled_change h.filled a
  modified := by
    rw [unsaved_concat, ← h.modified]
    cases a <;> simp [Grid.change, set, growRows, growColumns, markClean]
  columns := by
    rw [List.count_append, ← Nat.add_assoc]
    cases a with
    | growColumns =>
      show nextWord g.extent.maxX = _
      rw [h.columns, nextWord_mod, List.count_singleton_self]
    | set | growRows | markClean => exact h.columns
  rows := by
    rw [List.count_append, ← Nat.add_assoc]
    cases a with
    | growRows =>
      show nextWord g.extent.maxY = _
      rw [h.rows, nextWord_mod, List.count_singleton_self]
    | set | growColumns | markClean => exact h.rows

/-! ## Any changes -/

section

variable (hx : extent.maxX < wordBound) (hy : extent.maxY < wordBound)
include hx hy

theorem recalls_ofSnapshot (s : Snapshot) : (ofSnapshot s extent).Recalls s extent [] where
  text c := text?_ofSnapshot s extent c
  filled := filled_ofSnapshot s extent
  modified := ⟨fun h => Bool.noConfusion h, fun h => absurd h not_unsaved_nil⟩
  columns := (Nat.mod_eq_of_lt hx).symm
  rows := (Nat.mod_eq_of_lt hy).symm

theorem recalls_changeAll (s : Snapshot) (changes : List Change) :
    ((ofSnapshot s extent).changeAll changes).Recalls s extent changes := by
  induction changes using List.reverseRecOn with
  | nil => exact recalls_ofSnapshot hx hy s
  | append_singleton changes a ih =>
    rw [changeAll_concat]
    exact ih.change a

/-- What can be read from a grid after any changes: each place has the text that was stored there last, the size and
the rows are those of the places where something is stored, no row of its snapshot is empty, a grid made of that
snapshot shows the same, the mark says whether something was stored since, and each part of the extent counts its own
growths, up to the last word. -/
theorem changeAll_observed (hg : (ofSnapshot s extent).changeAll changes = g) :
    new extent = ofSnapshot .empty extent ∧
    (∀ c, g.get c = (storedAfter? s changes c).getD "" ∧ g.snapshot.text? c = storedAfter? s changes c) ∧
    ({c | (storedAfter? s changes c).isSome}.Finite ∧ g.size = {c | (storedAfter? s changes c).isSome}.ncard) ∧
    (∀ y, g.hasRow y = true ↔ ∃ x, (storedAfter? s changes ⟨x, y⟩).isSome) ∧
    (∀ y row, g.snapshot.get? y = some row → row.isEmpty = false) ∧
    (∀ extent', (∀ c, (ofSnapshot g.snapshot extent').get c = g.get c) ∧
      (∀ y, (ofSnapshot g.snapshot extent').hasRow y = g.hasRow y) ∧
      (ofSnapshot g.snapshot extent').size = g.size ∧ (ofSnapshot g.snapshot extent').snapshot = g.snapshot) ∧
    (g.modified = true ↔ Unsaved changes) ∧
    g.extent = ⟨(extent.maxX + changes.count .growColumns) % wordBound,
      (extent.maxY + changes.count .growRows) % wordBound⟩ ∧
    ∀ before, before <+: changes →
      (extent.maxX + changes.count .growColumns < wordBound →
        ((ofSnapshot s extent).changeAll before).extent.maxX ≤ g.extent.maxX) ∧
      (extent.maxY + changes.count .growRows < wordBound →
        ((ofSnapshot s extent).changeAll before).extent.maxY ≤ g.extent.maxY) := by
  have h : g.Recalls s extent changes := hg ▸ recalls_changeAll hx hy s changes
  have hrows : ∀ extent', (ofSnapshot g.snapshot extent').rows = g.rows := fun _ => h.filled
  refine ⟨rfl, fun c => ⟨by rw [get_eq_text?, h.text], h.text c⟩, ?_, fun y => ?_, ?_, fun extent' => ⟨?_, ?_, ?_, ?_⟩,
    h.modified, ?_, fun before hbefore => ⟨fun hroom => ?_, fun hroom => ?_⟩⟩
  · simpa only [h.text] using g.size_eq_ncard
  · rw [hasRow_iff h.filled]
    simp only [h.text]
  · exact (Snapshot.filled_eq_iff _).mp h.filled
  · intro c
    rw [get_eq_text?, hrows, get_eq_text?]
  · intro y
    rw [hasRow, hrows, hasRow]
  · rw [size, hrows, size]
  · exact hrows extent'
  · rw [← h.columns, ← h.rows]
  · have hcount := hbefore.sublist.count_le Change.growColumns
    rw [(recalls_changeAll hx hy s before).columns, h.columns, Nat.mod_eq_of_lt hroom, Nat.mod_eq_of_lt (by omega)]
    omega
  · have hcount := hbefore.sublist.count_le Change.growRows
    rw [(recalls_changeAll hx hy s before).rows, h.rows, Nat.mod_eq_of_lt hroom, Nat.mod_eq_of_lt (by omega)]
    omega

end

/-! ## A grid at the last word -/

def oneCell : Snapshot :=
  .ofEntries [(1, .ofEntries [(1, "a")]), (7, .empty)]

/-- A cell is emptied, another one is stored after a mark, and a row is added after the last one that has a word. -/
def emptiedAndGrown : List Change :=
  [.set ⟨1, 1⟩ "", .markClean, .set ⟨3, 2⟩ "b", .growRows, .growColumns]

theorem changeAll_observed_emptiedAndGrown :
    ((ofSnapshot oneCell ⟨4, wordBound - 1⟩).changeAll emptiedAndGrown).get ⟨1, 1⟩ = "" ∧
      ((ofSnapshot oneCell ⟨4, wordBound - 1⟩).changeAll emptiedAndGrown).hasRow 2 = true ∧
      ((ofSnapshot oneCell ⟨4, wordBound - 1⟩).changeAll emptiedAndGrown).modified = true ∧
      ((ofSnapshot oneCell ⟨4, wordBound - 1⟩).changeAll emptiedAndGrown).extent = ⟨5, 0⟩ := by
  have hx : 4 < wordBound := by decide
  have hy : wordBound - 1 < wordBound := by decide
  obtain ⟨-, hget, -, hrow, -, -, hmodified, hextent, -⟩ :=
    changeAll_observed hx hy (Eq.refl ((ofSnapshot oneCell ⟨4, wordBound - 1⟩).changeAll emptiedAndGrown))
  have hunsaved : Unsaved emptiedAndGrown :=
    ⟨[.set ⟨1, 1⟩ "", .markClean], ⟨3, 2⟩, "b", [.growRows, .growColumns], rfl, by decide⟩
  exact ⟨(hget ⟨1, 1⟩).1, (hrow 2).mpr ⟨3, rfl⟩, hmodified.mpr hunsaved, hextent⟩

end Grid

end Worksheet
