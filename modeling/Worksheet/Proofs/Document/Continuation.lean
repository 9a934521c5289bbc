import Worksheet.Proofs.Document.Edits
import Worksheet.Proofs.Document.Opening

/-!
# An open document and the sheet that is opened again

A document that was opened, and in which a cell is then changed, is the one that is opened from its store: the extent
is not kept in the store, but the least one that holds the cells comes out the same.

* `Document.set_cases` : a change is saved, or the store refuses it;
* `Document.cells_set` : the cells after a change; `Document.extent_reopened` : the extent that they need;
* `Document.load_of_set` : the document after a change that is saved;
* `Document.Idle` : documents that have nothing to save; `Document.idle_of_setNamed` : so it is after each change
  that succeeds;
* `Document.Unsaved` : documents that are kept nowhere; `Document.Unsaved.answer_setNamed` : those of one extent accept
  the same changes.
-/

namespace Worksheet.Document

variable {σ : Type} [Store σ] {d : Document σ}

/-! ## Changes that are saved -/

/-- Where a cell may be changed, the change is saved at once, or refused by the store. -/
theorem set_cases {store : σ} (hsaves : d.saveToStore = true) (hstore : d.store = some store) {c : Coord}
    (hc : d.checkEditable c = .ok ()) (raw : String) : ∃ store',
      (Store.write store d.tableKey (d.grid.set c raw).snapshot.encode = (.ok (), store') ∧
        d.set c raw = (.ok (), { d with grid := (d.grid.set c raw).markClean, store := some store' })) ∨
      ∃ f, Store.write store d.tableKey (d.grid.set c raw).snapshot.encode = (.error f, store') ∧
        d.set c raw = (.error f, { d with grid := d.grid.set c raw, store := some store' }) := by
  rw [set_ok hc]
  rcases save_cases { d with grid := d.grid.set c raw } with
    ⟨hkept | hclean | hnone, -⟩ | ⟨s, s', ⟨-, -, hs⟩, ⟨hwrite, hsave⟩ | ⟨f, hwrite, hsave⟩⟩
  · cases hsaves.symm.trans hkept
  · cases hclean
  · cases hstore.symm.trans hnone
  · obtain rfl := Option.some.inj (hstore.symm.trans hs)
    exact ⟨s', .inl ⟨hwrite, by rw [hsave]; rfl⟩⟩
  · obtain rfl := Option.some.inj (hstore.symm.trans hs)
    exact ⟨s', .inr ⟨f, hwrite, by rw [hsave]; rfl⟩⟩

theorem cells_set (g : Grid) (c : Coord) (raw : String) (b : Coord) :
    b ∈ (g.set c raw).rows.cells ↔ b = c ∨ b ∈ g.rows.cells := by
  rw [Snapshot.mem_cells_iff, Snapshot.mem_cells_iff]
  by_cases hb : b = c
  · exact iff_of_true ⟨raw, by rw [Grid.text?_set, if_pos hb]⟩ (.inl hb)
  · rw [Grid.text?_set, if_neg hb]
    exact (or_iff_right hb).symm

theorem extent_reopened {s : Snapshot} {start limit e e' : Extent} (he : storedExtent s limit = .ok e) {g : Grid}
    (hg : ∀ b, b ∈ g.rows.cells ↔ b ∈ s.cells) {c : Coord} (hc : (start.cover e).contains c = true) {raw : String}
    (he' : storedExtent (g.set c raw).rows limit = .ok e') : start.cover e' = start.cover e := by
  have hold : ∀ b ∈ s.cells, e'.contains b = true := by
    intro b hb
    exact (admits_of_storedExtent he' ((cells_set g c raw b).mpr (.inr ((hg b).mpr hb)))).2
  have hnew : ∀ b ∈ (g.set c raw).rows.cells, (start.cover e).contains b = true := by
    intro b hb
    obtain rfl | hb := (cells_set g c raw b).mp hb
    · exact hc
    · have hadmits := admits_of_storedExtent he ((hg b).mp hb)
      exact (hadmits.mono (Nat.le_max_right _ _) (Nat.le_max_right _ _)).2
  obtain ⟨hx, hy⟩ := le_of_storedExtent he hold
  obtain ⟨hx', hy'⟩ := le_of_storedExtent he' hnew
  unfold Extent.cover at hx' hy' ⊢
  dsimp only at hx' hy'
  rw [Extent.mk.injEq]
  omega

theorem load_of_set {config : Config} {store store' : σ} (hsaves : config.saveToStore = true)
    (hcolumns : config.maxColumns < wordBound) (hrows : config.maxRows < wordBound)
    (hload : load config store = .ok d) {c : Coord} (hc : d.checkEditable c = .ok ()) {raw : String}
    (hread : Store.read store' config.tableKey = .ok (some (d.grid.set c raw).snapshot.encode)) :
    load config store' = .ok { d with grid := (d.grid.set c raw).markClean, store := some store' } := by
  have hwords := words_of_load hcolumns hrows hload
  obtain ⟨hcells, hx, hy⟩ := limits_of_load hload
  obtain ⟨hheader, hinside⟩ := (d.checkEditable_eq_ok_iff c).mp hc
  obtain ⟨hcx, hcy⟩ := (d.grid.extent.contains_iff c).mp hinside
  have hlimit : config.limit.Admits c :=
    ⟨hheader, (config.limit.contains_iff c).mpr ⟨Nat.le_trans hcx hx, Nat.le_trans hcy hy⟩⟩
  have hgrid : (d.grid.set c raw).rows.Words :=
    Grid.words_set hwords (Nat.lt_of_le_of_lt (Nat.le_trans hcx hx) hcolumns)
      (Nat.lt_of_le_of_lt (Nat.le_trans hcy hy) hrows) raw
  have hsnapshot : loadSnapshot store' config.tableKey = .ok (d.grid.set c raw).rows :=
    loadSnapshot_eq_ok_iff.mpr ⟨_, hread, Snapshot.decode?_encode hgrid⟩
  rw [load_of_loadSnapshot hsaves hsnapshot]
  rcases storedExtent_ok_or_error (d.grid.set c raw).rows config.limit with ⟨e', he', -⟩ | ⟨b, hb, hbad, -⟩
  · rw [he']
    obtain ⟨s, e, -, he, rfl⟩ := exists_of_load hload
    have hsame : ∀ b, b ∈ (Grid.ofSnapshot s (config.extent.cover e)).rows.cells ↔ b ∈ s.cells := by
      intro b
      rw [Snapshot.mem_cells_iff, Snapshot.mem_cells_iff, Grid.text?_ofSnapshot]
    have hextent := extent_reopened he hsame hinside he'
    have hgrid := Grid.ofSnapshot_rows (Grid.filled_set (Grid.filled_ofSnapshot s (config.extent.cover e)) c raw)
    show Except.ok (ofSnapshot config _ (config.extent.cover e') (some store')) = _
    rw [hextent]
    exact congrArg (fun g => Except.ok (Document.mk g config.options config.tableKey (some store') config.saveToStore))
      hgrid
  · obtain rfl | hb := (cells_set d.grid c raw b).mp hb
    · exact absurd hlimit hbad
    · obtain ⟨text, htext⟩ := (Snapshot.mem_cells_iff _ b).mp hb
      exact absurd (hcells b text htext) hbad

/-! ## Nothing to save -/

/-- Whether a document has nothing to save. -/
def Idle (d : Document σ) : Prop :=
  d.save = (.ok false, d)

theorem idle_of_save {d' : Document σ} {b : Bool} (h : d.save = (.ok b, d')) : d'.Idle := by
  obtain ⟨-, hsame⟩ | ⟨s, s', -, ⟨-, hsaved⟩ | ⟨f, -, herror⟩⟩ := d.save_cases
  · obtain rfl : d = d' := (Prod.mk.inj (hsame.symm.trans h)).2
    have hb : b = false := (Except.ok.inj (Prod.mk.inj (hsame.symm.trans h)).1).symm
    rw [hb] at h
    exact h
  · obtain rfl := (Prod.mk.inj (hsaved.symm.trans h)).2
    exact save_of_clean rfl
  · cases (Prod.mk.inj (herror.symm.trans h)).1

theorem idle_of_setNamed {d' : Document σ} {name raw : String} {c : Coord} (h : d.setNamed name raw = (.ok c, d')) :
    d'.Idle := by
  cases hname : coordOf name with
  | error f =>
    rw [setNamed_error hname] at h
    cases (Prod.mk.inj h).1
  | ok b =>
    rw [setNamed_ok hname] at h
    obtain ⟨hok, rfl⟩ := Prod.mk.inj h
    cases hb : d.checkEditable b with
    | error f =>
      rw [set_error hb] at hok
      cases hok
    | ok u =>
      rw [set_ok hb] at hok ⊢
      cases hsave : save { d with grid := d.grid.set b raw } with
      | mk answer d₁ =>
        cases answer with
        | ok saved => exact idle_of_save hsave
        | error f =>
          rw [hsave] at hok
          cases hok

/-! ## Documents that are kept nowhere -/

theorem store_of_save (h : d.save.2.store = none) : d.store = none := by
  obtain ⟨-, hsame⟩ | ⟨s, s', -, ⟨-, hsaved⟩ | ⟨f, -, herror⟩⟩ := d.save_cases
  · rwa [hsame] at h
  · rw [hsaved] at h
    cases h
  · rw [herror] at h
    cases h

theorem store_of_setNamed {name raw : String} (h : (d.setNamed name raw).2.store = none) : d.store = none :=
  perform_induction (P := fun d' => d'.store = none → d.store = none) id (.setNamed name raw) (fun _ _ _ => id)
    (fun _ hd' hnone => hd' (store_of_save hnone)) (fun h => nomatch h) (fun h => nomatch h) h

/-- Whether a document has an extent and is kept nowhere. -/
structure Unsaved (d : Document σ) (extent : Extent) : Prop where
  unsaved : d.saveToStore = false
  detached : d.store = none
  extent : d.grid.extent = extent

omit [Store σ] in
theorem unsaved_new {config : Config} (h : config.saveToStore = false) :
    (new config : Document σ).Unsaved config.extent where
  unsaved := h
  detached := rfl
  extent := rfl

namespace Unsaved

variable {extent : Extent} (hd : d.Unsaved extent)
include hd

theorem save : d.save = (.ok false, d) :=
  save_of_unsaved hd.unsaved

theorem setNamed (name raw : String) : (d.setNamed name raw).2.Unsaved extent :=
  perform_induction (P := fun d' => d'.Unsaved extent) hd (.setNamed name raw)
    (fun _ _ _ => ⟨hd.unsaved, hd.detached, hd.extent⟩) (fun d' hd' => by rw [hd'.save]; exact hd')
    (fun h => nomatch h) fun h => nomatch h

theorem answer_setNamed {d' : Document σ} (hd' : d'.Unsaved extent) (name raw : String) :
    (d.setNamed name raw).1 = (d'.setNamed name raw).1 := by
  cases hname : coordOf name with
  | error f => rw [setNamed_error hname, setNamed_error hname]
  | ok c =>
    have hcheck : d.checkEditable c = d'.checkEditable c := by
      unfold checkEditable
      rw [hd.extent, hd'.extent]
    rw [setNamed_ok hname, setNamed_ok hname]
    cases hc : d'.checkEditable c with
    | error f => rw [set_error hc, set_error (hcheck.trans hc)]
    | ok u =>
      have hset : Unsaved { d with grid := d.grid.set c raw } extent := ⟨hd.unsaved, hd.detached, hd.extent⟩
      have hset' : Unsaved { d' with grid := d'.grid.set c raw } extent := ⟨hd'.unsaved, hd'.detached, hd'.extent⟩
      rw [set_ok hc, set_ok (hcheck.trans hc), hset.save, hset'.save]

end Unsaved

end Worksheet.Document
