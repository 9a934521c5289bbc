import Worksheet.Proofs.Document.Edits
import Worksheet.Proofs.Document.Opening
import Worksheet.Proofs.Storage.History

/-!
# A clean document is in its store

* `Document.Kept` : the store of a document came about by writes under its key, and if the document is clean, the
  last text that the store accepted there is its snapshot;
* `Document.kept_of_load`, `Document.Kept.set`, `Document.Kept.save`, `Document.Kept.perform`,
  `Document.Kept.performAll` : it is so when a document is opened, and each call keeps it so, whether the store
  accepts what is written or not;
* `Document.Kept.save_eq_true_iff`, `Document.Kept.save_eq_false_iff` : when saving writes;
* `Document.Kept.get?_of_clean`, `Document.Kept.entry?_of_clean` : what is in memory, and what is in a file;
* `Document.performAll_kept` : all of this after any calls.
-/

namespace Worksheet

namespace Document

/-! ## Documents and their stores -/

variable {σ : Type} [Store σ]

/-- The store of a document came about from the one that it was opened from, where a text was read, by writes under
the document's key alone. If the document is clean, then the text that the store last accepted there, or the one
that was read, is its snapshot. -/
structure Kept (config : Config) (start : σ) (text₀ : Option String) (d : Document σ) : Prop where
  saves : d.saveToStore = true
  key : d.tableKey = config.tableKey
  extentWords : d.grid.extent.maxX < wordBound ∧ d.grid.extent.maxY < wordBound
  words : d.grid.rows.Words
  filled : d.grid.rows.filled = d.grid.rows
  history : ∃ s held, d.store = some s ∧ Store.Writes config.tableKey start text₀ s held ∧
    (d.grid.modified = false → ∃ rows, Snapshot.ofHeld? held = some rows ∧ rows.filled = d.grid.snapshot)

variable {config : Config} {start : σ} {text₀ : Option String} {d : Document σ}

theorem kept_of_load (hsaves : config.saveToStore = true) (hcolumns : config.maxColumns < wordBound)
    (hrows : config.maxRows < wordBound) (hload : load config start = .ok d) :
    ∃ text₀, Store.read start config.tableKey = .ok text₀ ∧ d.Kept config start text₀ := by
  obtain ⟨-, hx, hy⟩ := limits_of_load hload
  have hwords := words_of_load hcolumns hrows hload
  obtain ⟨s, e, hs, -, rfl⟩ := exists_of_load hload
  rw [if_pos hsaves, loadSnapshot_eq_ok_iff] at hs
  obtain ⟨text₀, hread, hheld⟩ := hs
  exact ⟨text₀, hread, {
    saves := hsaves
    key := rfl
    extentWords := ⟨Nat.lt_of_le_of_lt hx hcolumns, Nat.lt_of_le_of_lt hy hrows⟩
    words := hwords
    filled := Grid.filled_ofSnapshot s _
    history := ⟨start, text₀, rfl, .start, fun _ => ⟨s, hheld, rfl⟩⟩ }⟩

namespace Kept

variable (h : d.Kept config start text₀)

include h

/-! ## Calls -/

theorem set {c : Coord} (hc : d.grid.extent.Admits c) (raw : String) :
    Kept config start text₀ { d with grid := d.grid.set c raw } := by
  obtain ⟨s, held, hstore, hwrites, -⟩ := h.history
  obtain ⟨hx, hy⟩ := (d.grid.extent.contains_iff c).mp hc.2
  exact { h with
    words := Grid.words_set h.words (Nat.lt_of_le_of_lt hx h.extentWords.1)
      (Nat.lt_of_le_of_lt hy h.extentWords.2) raw
    filled := Grid.filled_set h.filled c raw
    history := ⟨s, held, hstore, hwrites, fun hclean => Bool.noConfusion hclean⟩ }

theorem save : d.save.2.Kept config start text₀ := by
  obtain ⟨s₀, held, hstore₀, hwrites, -⟩ := h.history
  obtain ⟨-, heq⟩ | ⟨s, s', ⟨-, hmodified, hstore⟩, hsave⟩ := d.save_cases
  · rw [heq]
    exact h
  · obtain rfl := Option.some.inj (hstore₀.symm.trans hstore)
    obtain ⟨hwrite, heq⟩ | ⟨f, hwrite, heq⟩ := hsave <;> rw [h.key] at hwrite <;> rw [heq]
    · exact { h with
        history := ⟨s', _, rfl, .accepted hwrites hwrite, fun _ =>
          ⟨d.grid.rows, Snapshot.decode?_encode h.words, h.filled⟩⟩ }
    · exact { h with
        history := ⟨s', held, rfl, .refused hwrites hwrite, fun hclean =>
          Bool.noConfusion (hmodified.symm.trans hclean)⟩ }

theorem perform (e : Edit) : (d.perform e).Kept config start text₀ := by
  refine perform_induction h e (fun c raw hc => h.set hc raw) (fun d' hd' => hd'.save) (fun _ => ?_) fun _ => ?_
  · exact { h with extentWords := ⟨h.extentWords.1, nextWord_lt _⟩ }
  · exact { h with extentWords := ⟨nextWord_lt _, h.extentWords.2⟩ }

theorem performAll (edits : List Edit) : (d.performAll edits).Kept config start text₀ := by
  induction edits generalizing d with
  | nil => exact h
  | cons e edits ih => exact ih (h.perform e)

/-! ## Saving -/

theorem save_eq_true_iff {s : σ} (hstore : d.store = some s) :
    d.save.1 = .ok true ↔
      d.grid.modified = true ∧ (Store.write s config.tableKey d.grid.snapshot.encode).1 = .ok () := by
  rw [← h.key]
  obtain ⟨hidle, heq⟩ | ⟨s₁, s', ⟨-, hmodified, hstore₁⟩, hsave⟩ := d.save_cases
  · have hclean : d.grid.modified = false := by simpa [h.saves, hstore] using hidle
    simp [heq, hclean]
  · obtain rfl := Option.some.inj (hstore₁.symm.trans hstore)
    obtain ⟨hwrite, heq⟩ | ⟨f, hwrite, heq⟩ := hsave <;> simp [heq, hwrite, hmodified]

theorem save_eq_false_iff : d.save.1 = .ok false ↔ d.grid.modified = false := by
  obtain ⟨s, held, hstore, -⟩ := h.history
  obtain ⟨hidle, heq⟩ | ⟨s₁, s', ⟨-, hmodified, -⟩, hsave⟩ := d.save_cases
  · have hclean : d.grid.modified = false := by simpa [h.saves, hstore] using hidle
    simp [heq, hclean]
  · obtain ⟨-, heq⟩ | ⟨f, -, heq⟩ := hsave <;> simp [heq, hmodified]

/-- A document that was saved is clean. -/
theorem clean_of_save {written : Bool} (hsave : d.save.1 = .ok written) : d.save.2.grid.modified = false := by
  obtain ⟨-, heq⟩ | ⟨s, s', -, ⟨-, heq⟩ | ⟨f, -, heq⟩⟩ := d.save_cases
  · rw [heq]
    exact h.save_eq_false_iff.mp (by rw [heq])
  · rw [heq]
    rfl
  · rw [heq] at hsave
    cases hsave

theorem clean_of_set {c : Coord} {raw : String} (hset : (d.set c raw).1 = .ok ()) :
    (d.set c raw).2.grid.modified = false := by
  cases hc : d.checkEditable c with
  | error f =>
    rw [set_error hc] at hset
    cases hset
  | ok u =>
    rw [set_ok hc] at hset ⊢
    have hkept := h.set ((d.checkEditable_eq_ok_iff c).mp hc) raw
    cases hsave : (Document.save { d with grid := d.grid.set c raw }).1 with
    | error f =>
      rw [hsave] at hset
      cases hset
    | ok written => exact hkept.clean_of_save hsave

theorem clean_of_setNamed {name raw : String} {c : Coord} (hset : (d.setNamed name raw).1 = .ok c) :
    (d.setNamed name raw).2.grid.modified = false := by
  cases hname : coordOf name with
  | error f =>
    rw [setNamed_error hname] at hset
    cases hset
  | ok b =>
    rw [setNamed_ok hname] at hset ⊢
    cases hdone : (d.set b raw).1 with
    | error f =>
      rw [hdone] at hset
      cases hset
    | ok u => exact h.clean_of_set hdone

end Kept

/-! ## Stores in memory and in directories -/

/-- In memory the text under the key is the snapshot of a clean document, and other keys keep theirs. -/
theorem Kept.get?_of_clean {start : MemoryStore} {d : Document MemoryStore}
    (h : d.Kept config start (start.get? config.tableKey)) (hclean : d.grid.modified = false) :
    ∃ s rows, d.store = some s ∧ (∀ key ≠ config.tableKey, s.get? key = start.get? key) ∧
      Snapshot.ofHeld? (s.get? config.tableKey) = some rows ∧ rows.filled = d.grid.snapshot := by
  obtain ⟨s, held, hstore, hwrites, hrows⟩ := h.history
  obtain ⟨hget, hothers⟩ := MemoryStore.get?_of_writes hwrites
  obtain ⟨rows, hheld, hfilled⟩ := hrows hclean
  exact ⟨s, rows, hstore, hothers, by rw [hget, hheld], hfilled⟩

theorem Kept.entry?_of_clean {start : FileStore} {d : Document FileStore} (h : d.Kept config start text₀)
    (hread : Store.read start config.tableKey = .ok text₀) (hclean : d.grid.modified = false) :
    ∃ s held rows, d.store = some s ∧
      s.entry? config.tableKey = (held : Option String).map (fun text => .file text.toUTF8) ∧
      Snapshot.ofHeld? held = some rows ∧ rows.filled = d.grid.snapshot := by
  obtain ⟨s, held, hstore, hwrites, hrows⟩ := h.history
  obtain ⟨rows, hheld, hfilled⟩ := hrows hclean
  exact ⟨s, held, rows, hstore, FileStore.entry?_of_writes (FileStore.entry?_of_read hread) hwrites, hheld, hfilled⟩

/-! ## Any calls -/

/-- After any calls on a document that was opened, whatever the store refused: the store came about by writes under
the document's key; if the document is clean, then the text that the store holds there is its snapshot, but for rows
without cells; and a change that is reported as done, or saving, leaves the document clean. -/
theorem performAll_kept (hsaves : config.saveToStore = true) (hcolumns : config.maxColumns < wordBound)
    (hrows : config.maxRows < wordBound) (hload : load config start = .ok d) (edits : List Edit)
    {e : Document σ} (he : d.performAll edits = e) :
    ∃ text₀ s held, Store.read start config.tableKey = .ok text₀ ∧ e.store = some s ∧
      Store.Writes config.tableKey start text₀ s held ∧
      (e.grid.modified = false → ∃ rows, Snapshot.ofHeld? held = some rows ∧ rows.filled = e.grid.snapshot) ∧
      (∀ c raw, (e.set c raw).1 = .ok () → (e.set c raw).2.grid.modified = false) ∧
      (∀ name raw c, (e.setNamed name raw).1 = .ok c → (e.setNamed name raw).2.grid.modified = false) ∧
      (e.save.1 = .ok true ↔
        e.grid.modified = true ∧ (Store.write s config.tableKey e.grid.snapshot.encode).1 = .ok ()) ∧
      (e.save.1 = .ok false ↔ e.grid.modified = false) ∧
      ∀ written, e.save.1 = .ok written → e.save.2.save = (.ok false, e.save.2) := by
  obtain ⟨text₀, hread, hkept₀⟩ := kept_of_load hsaves hcolumns hrows hload
  have hkept := he ▸ hkept₀.performAll edits
  obtain ⟨s, held, hstore, hwrites, hclean⟩ := hkept.history
  refine ⟨text₀, s, held, hread, hstore, hwrites, hclean, fun c raw => hkept.clean_of_set,
    fun name raw c => hkept.clean_of_setNamed, hkept.save_eq_true_iff hstore, hkept.save_eq_false_iff, ?_⟩
  intro written hsave
  exact save_of_clean (hkept.clean_of_save hsave)

end Document

/-! ## A store that refuses what is written -/

/-- A store of one text, which refuses some writes before it accepts one. -/
structure ReluctantStore where
  held : Option String
  refusals : Nat

instance : Store ReluctantStore where
  read s _ := .ok s.held
  write s _ text :=
    match s.refusals with
    | 0 => (.ok (), ⟨some text, 0⟩)
    | n + 1 => (.error .io, ⟨s.held, n⟩)

namespace Document

def emptyRow : Snapshot :=
  .ofEntries [(7, .empty)]

def reluctant : Document ReluctantStore :=
  ofSnapshot .default emptyRow ⟨6, 10⟩ (some ⟨some emptyRow.encode, 1⟩)

theorem load_reluctant : load Config.default (⟨some emptyRow.encode, 1⟩ : ReluctantStore) = .ok reluctant := by
  have hwords : emptyRow.Words := by
    intro row hrow
    obtain rfl := List.mem_singleton.mp hrow
    exact ⟨by decide, by simp [SortedMap.empty]⟩
  have hread : loadSnapshot (⟨some emptyRow.encode, 1⟩ : ReluctantStore) Config.default.tableKey = .ok emptyRow :=
    loadSnapshot_eq_ok_iff.mpr ⟨_, rfl, Snapshot.decode?_encode hwords⟩
  rw [load_of_loadSnapshot rfl hread]
  rfl

/-- The change of the cell is refused, and saving again is not: the document is then in its store. -/
theorem performAll_kept_reluctant :
    load Config.default (⟨some emptyRow.encode, 1⟩ : ReluctantStore) = .ok reluctant ∧
      (reluctant.set ⟨1, 1⟩ "x").1 = .error .io ∧
      (reluctant.performAll [.set ⟨1, 1⟩ "x"]).save.1 = .ok true ∧
      ∃ s held, (reluctant.performAll [.set ⟨1, 1⟩ "x", .save]).store = some s ∧
        Store.Writes Config.default.tableKey ⟨some emptyRow.encode, 1⟩ (some emptyRow.encode) s held ∧
        ∃ rows, Snapshot.ofHeld? held = some rows ∧ rows.filled.text? ⟨1, 1⟩ = some "x" := by
  have hcolumns : Config.default.maxColumns < wordBound := by decide
  have hrows : Config.default.maxRows < wordBound := by decide
  have hrefused : reluctant.performAll [.set ⟨1, 1⟩ "x"] = { reluctant with
      grid := reluctant.grid.set ⟨1, 1⟩ "x", store := some ⟨some emptyRow.encode, 0⟩ } := rfl
  obtain ⟨-, s, -, -, hstore, -, -, -, -, hwritten, -⟩ := performAll_kept rfl hcolumns hrows load_reluctant _ hrefused
  obtain rfl := Option.some.inj hstore
  obtain ⟨text₀, s, held, hread, hstore, hwrites, hclean, -⟩ :=
    performAll_kept rfl hcolumns hrows load_reluctant [.set ⟨1, 1⟩ "x", .save] rfl
  obtain rfl : some emptyRow.encode = text₀ := Except.ok.inj hread
  obtain ⟨rows, hheld, hrows⟩ := hclean rfl
  refine ⟨load_reluctant, rfl, hwritten.mpr ⟨rfl, rfl⟩, s, held, hstore, hwrites, rows, hheld, ?_⟩
  rw [hrows]
  rfl

end Document

end Worksheet
