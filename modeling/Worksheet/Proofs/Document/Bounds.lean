import Worksheet.Proofs.Document.Edits
import Worksheet.Proofs.Document.Opening
import Worksheet.Proofs.Evaluation.Ranges

/-!
# No cell is stored outside the sheet

* `Grid.Bounded` : every stored cell is a data cell in the extent; `Grid.Bounded.set`, `Grid.Bounded.growRows`,
  `Grid.Bounded.growColumns` : what keeps it so;
* `Grid.Bounded.resolveRange` : a range is clipped without loss;
* `Document.Opened` : a new document, or one that was opened; `Document.Opened.bounded`;
* `Document.extent_perform`, `Document.bounded_perform` : one call; `Document.extent_performAll`,
  `Document.bounded_performAll` : any number of them;
* `Document.performAll_inside` : no cell of a document that was opened and changed is outside its extent, and so
  each one has its own place in every range around it.
-/

namespace Worksheet

/-! ## Grids -/

/-- Whether every stored cell is a data cell in the extent. -/
def Grid.Bounded (g : Grid) : Prop :=
  ∀ c raw, g.rows.text? c = some raw → g.extent.Admits c

namespace Grid.Bounded

variable {g : Grid} (h : g.Bounded)

include h

theorem set {c : Coord} (hc : g.extent.Admits c) (raw : String) : (g.set c raw).Bounded := by
  intro b text hb
  rw [text?_set] at hb
  split at hb
  · next heq => exact heq ▸ hc
  · exact h b text hb

theorem growRows (hroom : g.extent.maxY + 1 < wordBound) : g.growRows.Bounded := by
  intro b text hb
  have hgrown : g.growRows.extent.maxY = g.extent.maxY + 1 := Nat.mod_eq_of_lt hroom
  exact (h b text hb).mono (Nat.le_refl _) (by omega)

theorem growColumns (hroom : g.extent.maxX + 1 < wordBound) : g.growColumns.Bounded := by
  intro b text hb
  have hgrown : g.growColumns.extent.maxX = g.extent.maxX + 1 := Nat.mod_eq_of_lt hroom
  exact (h b text hb).mono (by omega) (Nat.le_refl _)

end Grid.Bounded

/-! ## Ranges -/

/-- Whether a place lies in the rectangle between two corners, wherever the sheet ends. -/
def Coord.Between (a b c : Coord) : Prop :=
  (min a.x b.x ≤ c.x ∧ c.x ≤ max a.x b.x) ∧ min a.y b.y ≤ c.y ∧ c.y ≤ max a.y b.y

instance (a b c : Coord) : Decidable (Coord.Between a b c) :=
  inferInstanceAs (Decidable (_ ∧ _))

/-- What a range takes a stored text for: a formula for its value, any other text for itself. -/
def storedValue (ctx : Context) (evaluate : Context → String → Result) (c : Coord) (raw : String) : Result :=
  match formula? raw with
  | some formula => evaluate (ctx.nested c) formula
  | none => .ok (.text raw)

section

variable {g : Grid} {ctx : Context} {evaluate : Context → String → Result}

theorem rangeValue_eq_storedValue (c : Coord) :
    rangeValue g ctx evaluate c = storedValue ctx evaluate c (g.get c) := by
  unfold storedValue
  cases hformula : formula? (g.get c) with
  | some formula => exact rangeValue_formula hformula
  | none => exact rangeValue_literal hformula

theorem exists_text?_of_rangeValue_error {c : Coord} {e : ErrorCode}
    (h : rangeValue g ctx evaluate c = .error e) :
    ∃ raw, g.rows.text? c = some raw ∧ storedValue ctx evaluate c raw = .error e := by
  rw [rangeValue_eq_storedValue, Grid.get_eq_text?] at h
  cases htext : g.rows.text? c with
  | none =>
    rw [htext] at h
    cases h
  | some raw =>
    rw [htext] at h
    exact ⟨raw, rfl, h⟩

/-- A range around stored cells has the value of each at its own row and column, counted from the first corner as
if nothing were clipped. If it fails instead, the formula of one of these cells does. -/
theorem Grid.Bounded.resolveRange (h : g.Bounded) (a b : Coord) (ctx : Context)
    (evaluate : Context → String → Result) :
    (∃ rows, (Worksheet.resolveRange (m := Id) g a b ctx evaluate).run = .ok rows ∧
      ∀ c raw, g.rows.text? c = some raw → Coord.Between a b c →
        ∃ row v, rows[c.y - min a.y b.y]? = some row ∧ row[c.x - min a.x b.x]? = some v ∧
          storedValue ctx evaluate c raw = .ok v) ∨
    ∃ c raw e, g.rows.text? c = some raw ∧ Coord.Between a b c ∧ storedValue ctx evaluate c raw = .error e ∧
      (Worksheet.resolveRange (m := Id) g a b ctx evaluate).run = .error e := by
  cases hrange : (Worksheet.resolveRange (m := Id) g a b ctx evaluate).run with
  | ok rows =>
    refine .inl ⟨rows, rfl, fun c raw hc ⟨⟨hleft, hright⟩, htop, hbottom⟩ => ?_⟩
    have hclips : g.extent.Clips a b c := ⟨hleft, hright, htop, hbottom, (h c raw hc).2⟩
    obtain ⟨row, v, hrow, hv, hvalue⟩ := getElem?_of_resolveRange hrange hclips
    rw [rangeValue_eq_storedValue, Grid.get_eq_text?, hc] at hvalue
    exact ⟨row, v, hrow, hv, hvalue⟩
  | error e =>
    obtain ⟨c, hclips, hvalue⟩ := exists_of_resolveRange_error hrange
    obtain ⟨raw, hc, hvalue⟩ := exists_text?_of_rangeValue_error hvalue
    exact .inr ⟨c, raw, e, hc, ⟨⟨hclips.left, hclips.right⟩, hclips.top, hclips.bottom⟩, hvalue, rfl⟩

end

/-! ## Documents -/

namespace Document

variable {σ : Type} [Store σ]

/-- Whether a document is a new one, or one that was opened, under some settings. -/
def Opened (d : Document σ) : Prop :=
  ∃ config, d = new config ∨ ∃ store, load config store = .ok d

theorem Opened.bounded {d : Document σ} (h : d.Opened) : d.grid.Bounded := by
  obtain ⟨config, rfl | ⟨store, hload⟩⟩ := h
  · intro c raw hc
    cases hc
  · obtain ⟨s, e, -, he, rfl⟩ := exists_of_load hload
    intro c raw hc
    have hs : s.text? c = some raw := (Grid.text?_ofSnapshot s _ c).symm.trans hc
    have hadmits : e.Admits c := admits_of_storedExtent he ((s.mem_cells_iff c).mpr ⟨raw, hs⟩)
    exact hadmits.mono (Nat.le_max_right _ _) (Nat.le_max_right _ _)

/-! ## Calls -/

theorem bounded_save {d : Document σ} (h : d.grid.Bounded) : d.save.2.grid.Bounded := by
  obtain h' | h' := d.grid_save <;> rw [h']
  · exact h
  · exact h

/-- A call adds no more than the row or the column that it is for. -/
theorem extent_perform (d : Document σ) (e : Edit)
    (hcolumns : d.grid.extent.maxX + [e].count .addColumn < wordBound)
    (hrows : d.grid.extent.maxY + [e].count .addRow < wordBound) :
    (d.perform e).grid.extent =
      ⟨d.grid.extent.maxX + [e].count .addColumn, d.grid.extent.maxY + [e].count .addRow⟩ := by
  have hkept : e ≠ .addRow → e ≠ .addColumn → (d.perform e).grid.extent = d.grid.extent := fun hrow hcolumn =>
    perform_induction (P := fun d' => d'.grid.extent = d.grid.extent) rfl e (fun _ _ _ => rfl)
      (fun d' hd' => (extent_save d').trans hd') (fun h => absurd h hrow) (fun h => absurd h hcolumn)
  cases e with
  | addRow => exact congrArg (Extent.mk d.grid.extent.maxX) (Nat.mod_eq_of_lt hrows)
  | addColumn => exact congrArg (fun x => Extent.mk x d.grid.extent.maxY) (Nat.mod_eq_of_lt hcolumns)
  | set | setNamed | save => exact hkept (by simp) (by simp)

/-- A call stores nothing outside the extent, unless that has no room to grow. -/
theorem bounded_perform {d : Document σ} (h : d.grid.Bounded) (e : Edit)
    (hcolumns : d.grid.extent.maxX + [e].count .addColumn < wordBound)
    (hrows : d.grid.extent.maxY + [e].count .addRow < wordBound) : (d.perform e).grid.Bounded := by
  refine perform_induction (P := fun d' => d'.grid.Bounded) h e (fun c raw hc => h.set hc raw)
    (fun d' hd' => bounded_save hd') ?_ ?_
  · rintro rfl
    exact h.growRows hrows
  · rintro rfl
    exact h.growColumns hcolumns

theorem bounded_performAll {d : Document σ} (h : d.grid.Bounded) {edits : List Edit}
    (hcolumns : d.grid.extent.maxX + edits.count .addColumn < wordBound)
    (hrows : d.grid.extent.maxY + edits.count .addRow < wordBound) : (d.performAll edits).grid.Bounded := by
  induction edits generalizing d with
  | nil => exact h
  | cons e edits ih =>
    rw [← List.singleton_append, List.count_append] at hcolumns hrows
    have hextent := extent_perform d e (by omega) (by omega)
    refine ih (bounded_perform h e (by omega) (by omega)) ?_ ?_
    · rw [hextent]
      simpa only [Nat.add_assoc] using hcolumns
    · rw [hextent]
      simpa only [Nat.add_assoc] using hrows

theorem extent_performAll (d : Document σ) (edits : List Edit)
    (hcolumns : d.grid.extent.maxX + edits.count .addColumn < wordBound)
    (hrows : d.grid.extent.maxY + edits.count .addRow < wordBound) :
    (d.performAll edits).grid.extent =
      ⟨d.grid.extent.maxX + edits.count .addColumn, d.grid.extent.maxY + edits.count .addRow⟩ := by
  induction edits generalizing d with
  | nil => rfl
  | cons e edits ih =>
    rw [← List.singleton_append, List.count_append] at hcolumns hrows
    have hextent := extent_perform d e (by omega) (by omega)
    have hrest := ih (d.perform e) (by rw [hextent]; dsimp only; omega) (by rw [hextent]; dsimp only; omega)
    rw [hextent] at hrest
    rw [← List.singleton_append, List.count_append, List.count_append, ← Nat.add_assoc, ← Nat.add_assoc]
    exact hrest

/-- After any calls on a new or opened document that do not grow it past the last word, every stored cell is a
data cell in the extent, and every range has the value of each stored cell between its corners at that cell's own
row and column, or fails as the formula of one of them does. -/
theorem performAll_inside {d : Document σ} (hopened : d.Opened) (edits : List Edit)
    (hcolumns : d.grid.extent.maxX + edits.count .addColumn < wordBound)
    (hrows : d.grid.extent.maxY + edits.count .addRow < wordBound) :
    (∀ c raw, (d.performAll edits).grid.rows.text? c = some raw →
      1 ≤ c.x ∧ c.x ≤ (d.performAll edits).grid.extent.maxX ∧
        1 ≤ c.y ∧ c.y ≤ (d.performAll edits).grid.extent.maxY) ∧
    ∀ a b ctx evaluate,
      (∃ rows, (resolveRange (m := Id) (d.performAll edits).grid a b ctx evaluate).run = .ok rows ∧
        ∀ c raw, (d.performAll edits).grid.rows.text? c = some raw → Coord.Between a b c →
          ∃ row v, rows[c.y - min a.y b.y]? = some row ∧ row[c.x - min a.x b.x]? = some v ∧
            storedValue ctx evaluate c raw = .ok v) ∨
      ∃ c raw e, (d.performAll edits).grid.rows.text? c = some raw ∧ Coord.Between a b c ∧
        storedValue ctx evaluate c raw = .error e ∧
          (resolveRange (m := Id) (d.performAll edits).grid a b ctx evaluate).run = .error e := by
  have hbounded := bounded_performAll hopened.bounded hcolumns hrows
  exact ⟨fun c raw hc => (Extent.admits_iff _ c).mp (hbounded c raw hc), hbounded.resolveRange⟩

def oneByOne : Config :=
  { Config.default with rows := 1, columns := 1 }

def formulaBelow : Snapshot :=
  .ofEntries [(2, .ofEntries [(3, "=1")])]

def storeBelow : MemoryStore :=
  MemoryStore.empty.insert oneByOne.tableKey formulaBelow.encode

def widened : Document MemoryStore :=
  ofSnapshot oneByOne formulaBelow ⟨3, 2⟩ (some storeBelow)

/-- A third row is added and written to; the ninth one is not there. -/
def writeBelow : List Edit :=
  [.addRow, .set ⟨1, 3⟩ "x", .set ⟨1, 9⟩ "y"]

theorem performAll_inside_widened :
    widened.Opened ∧ (widened.performAll writeBelow).grid.rows.text? ⟨3, 2⟩ = some "=1" ∧
      (widened.performAll writeBelow).grid.rows.text? ⟨1, 3⟩ = some "x" ∧
      (∀ c raw, (widened.performAll writeBelow).grid.rows.text? c = some raw → c.x ≤ 3 ∧ c.y ≤ 3) ∧
      ∃ rows, (resolveRange (m := Id) (widened.performAll writeBelow).grid ⟨1, 2⟩ ⟨9, 9⟩ (.root ⟨1, 1⟩)
          fun _ _ => .ok (.text "1")).run = .ok rows ∧
        (∃ row, rows[0]? = some row ∧ row[2]? = some (.text "1")) ∧
        ∃ row, rows[1]? = some row ∧ row[0]? = some (.text "x") := by
  have hwords : formulaBelow.Words := by
    intro row hrow
    obtain rfl := List.mem_singleton.mp hrow
    exact ⟨by decide, by decide⟩
  have hload : load oneByOne storeBelow = .ok widened :=
    load_of_loadSnapshot rfl (loadSnapshot_insert hwords .empty oneByOne.tableKey)
  have hopened : widened.Opened := ⟨oneByOne, .inr ⟨_, hload⟩⟩
  have hformula : (widened.performAll writeBelow).grid.rows.text? ⟨3, 2⟩ = some "=1" := rfl
  have htext : (widened.performAll writeBelow).grid.rows.text? ⟨1, 3⟩ = some "x" := rfl
  obtain ⟨hinside, hranges⟩ := performAll_inside hopened writeBelow (by decide) (by decide)
  refine ⟨hopened, hformula, htext, fun c raw hc => ?_, ?_⟩
  · obtain ⟨-, hx, -, hy⟩ := hinside c raw hc
    exact ⟨hx, hy⟩
  · rcases hranges ⟨1, 2⟩ ⟨9, 9⟩ (.root ⟨1, 1⟩) fun _ _ => .ok (.text "1") with
      ⟨rows, hrows, hplaces⟩ | ⟨c, raw, e, -, -, hfails, -⟩
    · obtain ⟨row₀, v₀, hrow₀, hv₀, hvalue₀⟩ := hplaces ⟨3, 2⟩ "=1" hformula (by decide)
      obtain ⟨row₁, v₁, hrow₁, hv₁, hvalue₁⟩ := hplaces ⟨1, 3⟩ "x" htext (by decide)
      obtain rfl : CellValue.text "1" = v₀ := Except.ok.inj hvalue₀
      obtain rfl : CellValue.text "x" = v₁ := Except.ok.inj hvalue₁
      exact ⟨rows, hrows, ⟨row₀, hrow₀, hv₀⟩, row₁, hrow₁, hv₁⟩
    · unfold storedValue at hfails
      split at hfails <;> cases hfails

end Document

end Worksheet
