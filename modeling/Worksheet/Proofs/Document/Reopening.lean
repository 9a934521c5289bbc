import Worksheet.Proofs.Document.Edits
import Worksheet.Proofs.Document.Opening

/-!
# A saved sheet is opened again

* `Document.Saved` : the store holds what the document shows;
* `Document.saved_of_load`, `Document.Saved.perform`, `Document.Saved.performAll` : it does so when a document
  is opened and after each call;
* `Document.load_performAll` : the sheet is opened again with the same cells, unless a cell past the limit was
  changed, as it can be once rows or columns were added; then it is not opened.
-/

namespace Worksheet.Document

/-! ## Documents that are saved -/

/-- The store holds what the document shows. The snapshot in the store may have rows without cells, which the
document leaves out, so that they agree in their cells only. -/
structure Saved (config : Config) (d : Document MemoryStore) (store : MemoryStore) : Prop where
  attached : d.store = some store
  saves : d.saveToStore = true
  key : d.tableKey = config.tableKey
  clean : d.grid.modified = false
  extentWords : d.grid.extent.maxX < wordBound ∧ d.grid.extent.maxY < wordBound
  words : d.grid.rows.Words
  noHeader : ∀ c raw, d.grid.rows.text? c = some raw → c.isHeader = false
  holds : ∃ s, loadSnapshot store config.tableKey = .ok s ∧ ∀ c, s.text? c = d.grid.rows.text? c

variable {config : Config} {store : MemoryStore} {d : Document MemoryStore}

theorem saved_of_load (hsaves : config.saveToStore = true) (hcolumns : config.maxColumns < wordBound)
    (hrows : config.maxRows < wordBound) (hload : load config store = .ok d) :
    d.Saved config store ∧ ∀ c raw, d.grid.rows.text? c = some raw → config.limit.contains c = true := by
  obtain ⟨hcells, hx, hy⟩ := limits_of_load hload
  have hwords := words_of_load hcolumns hrows hload
  obtain ⟨s, e, hs, -, rfl⟩ := exists_of_load hload
  rw [if_pos hsaves] at hs
  exact ⟨{
    attached := rfl
    saves := hsaves
    key := rfl
    clean := rfl
    extentWords := ⟨Nat.lt_of_le_of_lt hx hcolumns, Nat.lt_of_le_of_lt hy hrows⟩
    words := hwords
    noHeader := fun c raw hc => (hcells c raw hc).1
    holds := ⟨s, hs, fun c => (Grid.text?_ofSnapshot s _ c).symm⟩ }, fun c raw hc => (hcells c raw hc).2⟩

/-! ## One call -/

theorem Saved.save (h : d.Saved config store) : d.save = (.ok false, d) :=
  save_of_clean h.clean

/-- A cell that is no header and lies in the extent is changed, and the store then holds the change. -/
theorem Saved.set_ok (h : d.Saved config store) {c : Coord} (hc : d.checkEditable c = .ok ()) (raw : String) :
    (d.set c raw).1 = .ok () ∧ (∃ store', (d.set c raw).2.Saved config store') ∧
      ∀ b, (d.set c raw).2.grid.rows.text? b = if b = c then some raw else d.grid.rows.text? b := by
  obtain ⟨hheader, hinside⟩ := (d.checkEditable_eq_ok_iff c).mp hc
  have hplace := (d.grid.extent.contains_iff c).mp hinside
  have hwords : (d.grid.set c raw).rows.Words :=
    Grid.words_set h.words (Nat.lt_of_le_of_lt hplace.1 h.extentWords.1)
      (Nat.lt_of_le_of_lt hplace.2 h.extentWords.2) raw
  have hset : d.set c raw = (.ok (), { d with
      grid := (d.grid.set c raw).markClean
      store := some (store.insert d.tableKey (d.grid.set c raw).snapshot.encode) }) := by
    unfold Document.set
    rw [hc]
    unfold Document.save
    have hmodified : (!d.saveToStore || !(d.grid.set c raw).modified) = false := by rw [h.saves]; rfl
    simp only [hmodified, h.attached]
    rfl
  rw [hset]
  have htext : ∀ b, (d.grid.set c raw).rows.text? b = if b = c then some raw else d.grid.rows.text? b :=
    fun b => d.grid.text?_set c b raw
  refine ⟨rfl, ⟨_, rfl, h.saves, h.key, rfl, h.extentWords, hwords, ?_,
    (d.grid.set c raw).rows, ?_, fun _ => rfl⟩, htext⟩
  · intro b text hb
    have hb' : (if b = c then some raw else d.grid.rows.text? b) = some text := by rw [← htext]; exact hb
    split at hb'
    · next heq => exact heq ▸ hheader
    · exact h.noHeader b text hb'
  · rw [h.key]
    exact loadSnapshot_insert hwords store config.tableKey

/-- A call keeps a document saved. It adds the cell that it changes, if it succeeds, and no other. -/
theorem Saved.perform (h : d.Saved config store) (e : Edit) :
    (∃ store', (d.perform e).Saved config store') ∧
      ∀ b, ((d.perform e).grid.rows.text? b).isSome ↔ (d.grid.rows.text? b).isSome ∨ d.accepted e = some b := by
  have hstays : (∃ store', d.Saved config store') ∧
      ∀ b, (d.grid.rows.text? b).isSome ↔ (d.grid.rows.text? b).isSome ∨ (none : Option Coord) = some b :=
    ⟨⟨store, h⟩, fun b => by simp⟩
  have hset : ∀ c raw, (∃ store', (d.set c raw).2.Saved config store') ∧
      ∀ b, ((d.set c raw).2.grid.rows.text? b).isSome ↔
        (d.grid.rows.text? b).isSome ∨ ((d.set c raw).1.toOption.map fun _ => c) = some b := by
    intro c raw
    cases hc : d.checkEditable c with
    | error f =>
      rw [set_error hc]
      exact hstays
    | ok u =>
      obtain ⟨hok, hsaved, htext⟩ := h.set_ok hc raw
      refine ⟨hsaved, fun b => ?_⟩
      rw [hok, htext]
      by_cases hb : b = c
      · simp [hb, Except.toOption]
      · simp [hb, Except.toOption, Ne.symm hb]
  cases e with
  | set c raw => exact hset c raw
  | setNamed name raw =>
    cases hname : coordOf name with
    | error f =>
      simp only [Document.perform, Document.accepted, setNamed_error hname]
      exact hstays
    | ok c =>
      simp only [Document.perform, Document.accepted, setNamed_ok hname]
      have hmap : ((d.set c raw).1.map fun _ => c).toOption = (d.set c raw).1.toOption.map fun _ => c := by
        cases (d.set c raw).1 <;> rfl
      rw [hmap]
      exact hset c raw
  | addRow =>
    have hwords := And.intro h.extentWords.1 (nextWord_lt d.grid.extent.maxY)
    exact ⟨⟨store, h.attached, h.saves, h.key, h.clean, hwords, h.words, h.noHeader, h.holds⟩, hstays.2⟩
  | addColumn =>
    have hwords := And.intro (nextWord_lt d.grid.extent.maxX) h.extentWords.2
    exact ⟨⟨store, h.attached, h.saves, h.key, h.clean, hwords, h.words, h.noHeader, h.holds⟩, hstays.2⟩
  | save =>
    simp only [Document.perform, Document.accepted, h.save]
    exact hstays

/-! ## Runs -/

theorem Saved.performAll (h : d.Saved config store) (edits : List Edit) :
    (∃ store', (d.performAll edits).Saved config store') ∧
      ∀ b, ((d.performAll edits).grid.rows.text? b).isSome ↔
        (d.grid.rows.text? b).isSome ∨ b ∈ d.acceptedAll edits := by
  induction edits generalizing d store with
  | nil => exact ⟨⟨store, h⟩, fun b => by simp [Document.performAll, acceptedAll]⟩
  | cons e edits ih =>
    obtain ⟨⟨store₁, hsaved⟩, hstep⟩ := h.perform e
    obtain ⟨hfinal, hcells⟩ := ih hsaved
    refine ⟨hfinal, fun b => ?_⟩
    show ((Document.performAll (d.perform e) edits).grid.rows.text? b).isSome ↔ _
    rw [hcells b, hstep b, acceptedAll, List.mem_append, Option.mem_toList, or_assoc]

theorem Saved.load_ok_or_error (h : d.Saved config store) (hsaves : config.saveToStore = true) :
    ((∀ c, (d.grid.rows.text? c).isSome → config.limit.contains c = true) ∧
      ∃ d', load config store = .ok d' ∧ ∀ c, d'.raw c = d.raw c) ∨
    ∃ c, (d.grid.rows.text? c).isSome ∧ config.limit.contains c = false ∧
      load config store = .error (.storedCellOutOfBounds c config.limit) := by
  obtain ⟨s, hs, htext⟩ := h.holds
  rw [load_of_loadSnapshot hsaves hs]
  rcases storedExtent_ok_or_error s config.limit with ⟨e, he, -, -, hall⟩ | ⟨c, hc, hbad, herror⟩
  · rw [he]
    refine .inl ⟨fun c hc => ?_, _, rfl, fun c => ?_⟩
    · obtain ⟨raw, hraw⟩ := Option.isSome_iff_exists.mp hc
      rw [← htext] at hraw
      exact (hall c ((s.mem_cells_iff c).mpr ⟨raw, hraw⟩)).2
    · show (Grid.ofSnapshot s (config.extent.cover e)).get c = d.grid.get c
      rw [Grid.get_eq_text?, Grid.get_eq_text?, Grid.text?_ofSnapshot, htext]
  · obtain ⟨raw, hraw⟩ := (s.mem_cells_iff c).mp hc
    rw [htext] at hraw
    have hpast : config.limit.contains c = false := by
      rw [← Bool.not_eq_true]
      intro hinside
      exact hbad ⟨h.noHeader c raw hraw, hinside⟩
    rw [herror]
    exact .inr ⟨c, Option.isSome_of_eq_some hraw, hpast, rfl⟩

/-- After any calls, the sheet is opened again with the same cells exactly if every cell that was changed lies
within the limit; if not, one of those past the limit is reported. -/
theorem load_performAll {config : Config} (hsaves : config.saveToStore = true)
    (hcolumns : config.maxColumns < wordBound) (hrows : config.maxRows < wordBound) {store : MemoryStore}
    {d : Document MemoryStore} (hload : load config store = .ok d) (edits : List Edit) :
    ∃ store', (d.performAll edits).store = some store' ∧
      ((∀ c ∈ d.acceptedAll edits, config.limit.contains c = true) →
        ∃ d', load config store' = .ok d' ∧ ∀ c, d'.raw c = (d.performAll edits).raw c) ∧
      ((∃ c ∈ d.acceptedAll edits, config.limit.contains c = false) →
        ∃ c ∈ d.acceptedAll edits, config.limit.contains c = false ∧
          load config store' = .error (.storedCellOutOfBounds c config.limit)) := by
  obtain ⟨hsaved, hinside⟩ := saved_of_load hsaves hcolumns hrows hload
  obtain ⟨⟨store', hfinal⟩, hcells⟩ := hsaved.performAll edits
  refine ⟨store', hfinal.attached, ?_⟩
  rcases hfinal.load_ok_or_error hsaves with ⟨hall, hok⟩ | ⟨c, hc, hpast, herror⟩
  · refine ⟨fun _ => hok, fun ⟨c, hc, hpast⟩ => ?_⟩
    exact absurd (hall c ((hcells c).mpr (.inr hc))) (by simp [hpast])
  · -- the cells that were opened lie within the limit, so the one that is reported was changed
    have hchanged : c ∈ d.acceptedAll edits := by
      rcases (hcells c).mp hc with hold | hnew
      · obtain ⟨raw, hraw⟩ := Option.isSome_iff_exists.mp hold
        exact absurd (hinside c raw hraw) (by simp [hpast])
      · exact hnew
    refine ⟨fun hall => ?_, fun _ => ⟨c, hchanged, hpast, herror⟩⟩
    exact absurd (hall c hchanged) (by simp [hpast])

/-! ## A row past the limit -/

def twoRows : Config :=
  { Config.default with rows := 2, columns := 2, maxRows := 2 }

def emptySheet : Document MemoryStore :=
  ofSnapshot twoRows .empty ⟨2, 2⟩ (some .empty)

def writeThirdRow : List Edit :=
  [.addRow, .set ⟨1, 3⟩ "x"]

theorem load_twoRows : load twoRows .empty = .ok emptySheet := rfl

theorem acceptedAll_writeThirdRow : emptySheet.acceptedAll writeThirdRow = [⟨1, 3⟩] := rfl

theorem load_performAll_twoRows :
    twoRows.saveToStore = true ∧ twoRows.maxColumns < wordBound ∧ twoRows.maxRows < wordBound ∧
      load twoRows .empty = .ok emptySheet ∧
      ∃ store', (emptySheet.performAll writeThirdRow).store = some store' ∧
        load twoRows store' = .error (.storedCellOutOfBounds ⟨1, 3⟩ ⟨16384, 2⟩) := by
  have hcolumns : twoRows.maxColumns < wordBound := by decide
  have hrows : twoRows.maxRows < wordBound := by decide
  obtain ⟨store', hstore, -, hpast⟩ := load_performAll rfl hcolumns hrows load_twoRows writeThirdRow
  rw [acceptedAll_writeThirdRow] at hpast
  obtain ⟨c, hc, -, herror⟩ := hpast ⟨⟨1, 3⟩, List.mem_singleton_self _, by decide⟩
  obtain rfl := List.mem_singleton.mp hc
  exact ⟨rfl, hcolumns, hrows, load_twoRows, store', hstore, herror⟩

/-- Not every sheet that was saved is opened again. -/
theorem not_always_reopened :
    ¬∀ (config : Config) (store : MemoryStore) (d : Document MemoryStore) (edits : List Edit),
      config.saveToStore = true → load config store = .ok d →
      ∃ store' d', (d.performAll edits).store = some store' ∧ load config store' = .ok d' ∧
        ∀ c, d'.raw c = (d.performAll edits).raw c := by
  intro hall
  obtain ⟨store', d', hstore, hload, -⟩ := hall twoRows .empty emptySheet writeThirdRow rfl load_twoRows
  have hcolumns : twoRows.maxColumns < wordBound := by decide
  have hrows : twoRows.maxRows < wordBound := by decide
  obtain ⟨hsaved, -⟩ := saved_of_load rfl hcolumns hrows load_twoRows
  obtain ⟨⟨store₁, hfinal⟩, hcells⟩ := hsaved.performAll writeThirdRow
  obtain rfl : store₁ = store' := Option.some.inj (hfinal.attached.symm.trans hstore)
  have hthird : ((emptySheet.performAll writeThirdRow).grid.rows.text? ⟨1, 3⟩).isSome :=
    (hcells ⟨1, 3⟩).mpr (.inr (by rw [acceptedAll_writeThirdRow]; exact List.mem_singleton_self _))
  rcases hfinal.load_ok_or_error rfl with ⟨hinside, -⟩ | ⟨c, -, -, herror⟩
  · exact absurd (hinside ⟨1, 3⟩ hthird) (by decide)
  · rw [hload] at herror
    cases herror

end Worksheet.Document
