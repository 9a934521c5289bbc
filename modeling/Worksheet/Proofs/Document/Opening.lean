import Worksheet.Document.Basic
import Worksheet.Proofs.Sheet.StoredCells

/-!
# Opening documents

* `Snapshot.ofHeld?` : the snapshot that a store keeps as a text;
* `Document.loadSnapshot_eq_ok_iff`, `Document.loadSnapshot_insert` : what is read from a store;
* `Document.exists_of_load`, `Document.load_of_loadSnapshot` : what a document is opened from;
* `Document.limits_of_load`, `Document.words_of_load` : the cells and the extent of a document that is opened.
-/

namespace Worksheet

def Snapshot.ofHeld? : Option String → Option Snapshot
  | none => some .empty
  | some text => decode? text

namespace Document

variable {σ : Type} [Store σ]

/-! ## Reading from a store -/

theorem exists_of_bind_eq_ok {ε α β : Type} {x : Except ε α} {f : α → Except ε β} {b : β}
    (h : x >>= f = .ok b) : ∃ a, x = .ok a ∧ f a = .ok b := by
  cases x with
  | error e => cases h
  | ok a => exact ⟨a, rfl, h⟩

theorem loadSnapshot_eq_ok_iff {store : σ} {key : String} {s : Snapshot} :
    loadSnapshot store key = .ok s ↔
      ∃ held, Store.read store key = .ok held ∧ Snapshot.ofHeld? held = some s := by
  constructor
  · intro h
    obtain ⟨held, hread, hrest⟩ := exists_of_bind_eq_ok h
    refine ⟨held, hread, ?_⟩
    cases held with
    | none => exact congrArg some (Except.ok.inj hrest)
    | some text =>
      show Snapshot.decode? text = some s
      dsimp only at hrest
      split at hrest
      · next hdecode => rw [hdecode, Except.ok.inj hrest]
      · cases hrest
  · rintro ⟨held, hread, hheld⟩
    unfold loadSnapshot
    rw [hread]
    cases held with
    | none => exact congrArg Except.ok (Option.some.inj hheld)
    | some text =>
      have hdecode : Snapshot.decode? text = some s := hheld
      simp only [bind, Except.bind, hdecode]
      rfl

theorem loadSnapshot_insert {s : Snapshot} (hs : s.Words) (store : MemoryStore) (key : String) :
    loadSnapshot (store.insert key s.encode) key = .ok s := by
  have hget : (store.insert key s.encode).get? key = some s.encode := by
    rw [MemoryStore.get?_insert, if_pos rfl]
  exact loadSnapshot_eq_ok_iff.mpr ⟨_, congrArg Except.ok hget, Snapshot.decode?_encode hs⟩

/-! ## Opening -/

/-- A document is opened from a snapshot whose cells may all be opened: the one in the store, or the empty one if
nothing is saved. -/
theorem exists_of_load {config : Config} {store : σ} {d : Document σ} (hload : load config store = .ok d) :
    ∃ s e, (if config.saveToStore then loadSnapshot store config.tableKey else .ok .empty) = .ok s ∧
      storedExtent s config.limit = .ok e ∧ d = ofSnapshot config s (config.extent.cover e) (some store) := by
  have hparts : ∃ s, (if config.saveToStore then loadSnapshot store config.tableKey else .ok .empty) = .ok s ∧
      (do let e ← storedExtent s config.limit
          return ofSnapshot config s (config.extent.cover e) (some store)) = Except.ok d := by
    unfold load at hload
    cases hsaves : config.saveToStore with
    | false =>
      rw [hsaves] at hload
      exact ⟨.empty, rfl, hload⟩
    | true =>
      rw [hsaves, if_pos rfl] at hload
      exact exists_of_bind_eq_ok hload
  obtain ⟨s, hs, hrest⟩ := hparts
  obtain ⟨e, he, hd⟩ := exists_of_bind_eq_ok hrest
  exact ⟨s, e, hs, he, (Except.ok.inj hd).symm⟩

theorem load_of_loadSnapshot {config : Config} {store : σ} (hsaves : config.saveToStore = true) {s : Snapshot}
    (hs : loadSnapshot store config.tableKey = .ok s) :
    load config store = (storedExtent s config.limit).map fun e =>
      ofSnapshot config s (config.extent.cover e) (some store) := by
  rw [load, if_pos hsaves, hs]
  show (do
    let stored ← storedExtent s config.limit
    return ofSnapshot config s (config.extent.cover stored) (some store)) = _
  cases storedExtent s config.limit <;> rfl

theorem limits_of_load {config : Config} {store : σ} {d : Document σ} (hload : load config store = .ok d) :
    (∀ c raw, d.grid.rows.text? c = some raw → config.limit.Admits c) ∧
      d.grid.extent.maxX ≤ config.maxColumns ∧ d.grid.extent.maxY ≤ config.maxRows := by
  obtain ⟨s, e, -, he, rfl⟩ := exists_of_load hload
  rcases storedExtent_ok_or_error s config.limit with ⟨e', he', hx, hy, hall⟩ | ⟨c, -, -, herror⟩
  · obtain rfl := Except.ok.inj (he.symm.trans he')
    refine ⟨fun c raw hc => ?_, Nat.max_le.mpr ⟨Nat.min_le_right _ _, hx⟩, Nat.max_le.mpr ⟨Nat.min_le_right _ _, hy⟩⟩
    have hs : s.text? c = some raw := (Grid.text?_ofSnapshot s _ c).symm.trans hc
    exact hall c ((s.mem_cells_iff c).mpr ⟨raw, hs⟩)
  · cases he.symm.trans herror

theorem words_of_load {config : Config} (hcolumns : config.maxColumns < wordBound)
    (hrows : config.maxRows < wordBound) {store : σ} {d : Document σ} (hload : load config store = .ok d) :
    d.grid.rows.Words := by
  obtain ⟨hcells, -⟩ := limits_of_load hload
  obtain ⟨s, e, -, -, rfl⟩ := exists_of_load hload
  refine Grid.words_ofSnapshot (fun c raw hc => ?_) _
  have hle := (config.limit.contains_iff c).mp (hcells c raw ((Grid.text?_ofSnapshot s _ c).trans hc)).2
  exact ⟨Nat.lt_of_le_of_lt hle.1 hcolumns, Nat.lt_of_le_of_lt hle.2 hrows⟩

end Document

end Worksheet
