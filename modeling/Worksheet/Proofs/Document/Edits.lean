import Worksheet.Document.Basic
import Worksheet.Proofs.Sheet.StoredCells

/-!
# Changing documents

* `Edit` : the calls that may change a document; `Document.perform`, `Document.performAll`;
* `Document.accepted`, `Document.acceptedAll` : the cells that are changed by calls that succeed;
* `Document.save_cases` : saving does nothing, or ends as the store answers; `Document.save_of_clean`,
  `Document.save_of_unsaved`; `Document.grid_save` : it leaves the cells and the extent;
* `Document.set_ok`, `Document.set_error`, `Document.setNamed_ok`, `Document.setNamed_error` : a cell that may be
  changed is changed and the document is saved; otherwise nothing happens; `Document.set_of_unsaved`;
* `Document.raw_set`, `Document.extent_set` : what is read after a cell was set;
* `Document.perform_induction` : what each part of a call keeps, the call keeps.
-/

namespace Worksheet

/-- A call that may change a document. -/
inductive Edit
  | set (c : Coord) (raw : String)
  | setNamed (name raw : String)
  | addRow
  | addColumn
  | save
  deriving DecidableEq, Repr

namespace Document

variable {σ : Type} [Store σ]

/-! ## Runs of calls -/

/-- The document after a call, whether that succeeds or is rejected. -/
def perform (d : Document σ) : Edit → Document σ
  | .set c raw => (d.set c raw).2
  | .setNamed name raw => (d.setNamed name raw).2
  | .addRow => d.addRow
  | .addColumn => d.addColumn
  | .save => d.save.2

def performAll (d : Document σ) (edits : List Edit) : Document σ :=
  edits.foldl perform d

/-- The cell that a call changes, if the call succeeds. -/
def accepted (d : Document σ) : Edit → Option Coord
  | .set c raw => (d.set c raw).1.toOption.map fun _ => c
  | .setNamed name raw => (d.setNamed name raw).1.toOption
  | .addRow | .addColumn | .save => none

def acceptedAll (d : Document σ) : List Edit → List Coord
  | [] => []
  | e :: edits => (d.accepted e).toList ++ (d.perform e).acceptedAll edits

/-! ## Single calls -/

theorem nextWord_lt (n : Nat) : nextWord n < wordBound :=
  Nat.mod_lt _ (by decide)

omit [Store σ] in
theorem checkEditable_eq_ok_iff (d : Document σ) (c : Coord) :
    d.checkEditable c = .ok () ↔ d.grid.extent.Admits c := by
  unfold checkEditable Extent.Admits
  cases c.isHeader <;> cases d.grid.extent.contains c <;> simp

/-- A document is written if it is kept in a store and was modified, and is clean if the store accepts that. -/
theorem save_cases (d : Document σ) :
    ((d.saveToStore = false ∨ d.grid.modified = false ∨ d.store = none) ∧ d.save = (.ok false, d)) ∨
    ∃ s s', (d.saveToStore = true ∧ d.grid.modified = true ∧ d.store = some s) ∧
      ((Store.write s d.tableKey d.grid.snapshot.encode = (.ok (), s') ∧
          d.save = (.ok true, { d with grid := d.grid.markClean, store := some s' })) ∨
        ∃ f, Store.write s d.tableKey d.grid.snapshot.encode = (.error f, s') ∧
          d.save = (.error f, { d with store := some s' })) := by
  unfold save
  cases hsaves : d.saveToStore with
  | false => exact .inl ⟨.inl rfl, rfl⟩
  | true =>
    cases hmodified : d.grid.modified with
    | false => exact .inl ⟨.inr (.inl rfl), rfl⟩
    | true =>
      cases hstore : d.store with
      | none => exact .inl ⟨.inr (.inr rfl), rfl⟩
      | some s =>
        refine .inr ⟨s, (Store.write s d.tableKey d.grid.snapshot.encode).2, ⟨rfl, rfl, rfl⟩, ?_⟩
        cases hwrite : Store.write s d.tableKey d.grid.snapshot.encode with
        | mk answer s' =>
          cases answer with
          | ok u => exact .inl ⟨rfl, by simp [hwrite]⟩
          | error f => exact .inr ⟨f, rfl, by simp [hwrite]⟩

theorem save_of_clean {d : Document σ} (hclean : d.grid.modified = false) : d.save = (.ok false, d) := by
  obtain ⟨-, heq⟩ | ⟨s, s', ⟨-, hmodified, -⟩, -⟩ := d.save_cases
  · exact heq
  · cases hclean.symm.trans hmodified

theorem save_of_unsaved {d : Document σ} (h : d.saveToStore = false) : d.save = (.ok false, d) := by
  obtain ⟨-, heq⟩ | ⟨s, s', ⟨hsaves, -⟩, -⟩ := d.save_cases
  · exact heq
  · cases h.symm.trans hsaves

theorem grid_save (d : Document σ) : d.save.2.grid = d.grid ∨ d.save.2.grid = d.grid.markClean := by
  obtain ⟨-, h⟩ | ⟨s, s', -, ⟨-, h⟩ | ⟨f, -, h⟩⟩ := d.save_cases
  · exact .inl (by rw [h])
  · exact .inr (by rw [h])
  · exact .inl (by rw [h])

theorem extent_save (d : Document σ) : d.save.2.grid.extent = d.grid.extent := by
  obtain h | h := d.grid_save <;> rw [h]
  rfl

theorem set_error {d : Document σ} {c : Coord} {f : Failure} (hc : d.checkEditable c = .error f) (raw : String) :
    d.set c raw = (.error f, d) := by
  unfold Document.set
  rw [hc]

theorem set_ok {d : Document σ} {c : Coord} (hc : d.checkEditable c = .ok ()) (raw : String) :
    d.set c raw = ((save { d with grid := d.grid.set c raw }).1.map fun _ => (),
      (save { d with grid := d.grid.set c raw }).2) := by
  unfold Document.set
  rw [hc]

theorem raw_set (d : Document σ) {c : Coord} (hc : d.checkEditable c = .ok ()) (raw : String) (b : Coord) :
    (d.set c raw).2.raw b = if b = c then raw else d.raw b := by
  rw [set_ok hc]
  rcases grid_save { d with grid := d.grid.set c raw } with hgrid | hgrid <;>
    simp only [Document.raw, hgrid, Grid.get_markClean, Grid.get_set]

theorem extent_set (d : Document σ) (c : Coord) (raw : String) : (d.set c raw).2.grid.extent = d.grid.extent := by
  cases hc : d.checkEditable c with
  | error f => rw [set_error hc]
  | ok u =>
    rw [set_ok hc]
    exact extent_save { d with grid := d.grid.set c raw }

theorem set_of_unsaved {d : Document σ} (h : d.saveToStore = false) {c : Coord} (hc : d.checkEditable c = .ok ())
    (raw : String) : d.set c raw = (.ok (), { d with grid := d.grid.set c raw }) := by
  have hsave := save_of_unsaved (d := { d with grid := d.grid.set c raw }) h
  rw [set_ok hc, hsave]
  rfl

theorem setNamed_error {name : String} {f : Failure} (hname : coordOf name = .error f) (d : Document σ)
    (raw : String) : d.setNamed name raw = (.error f, d) := by
  unfold Document.setNamed
  rw [hname]

theorem setNamed_ok {name : String} {c : Coord} (hname : coordOf name = .ok c) (d : Document σ) (raw : String) :
    d.setNamed name raw = ((d.set c raw).1.map fun _ => c, (d.set c raw).2) := by
  unfold Document.setNamed
  rw [hname]

/-- What storing text where that is allowed, saving and growing each keep, a call keeps. -/
theorem perform_induction {P : Document σ → Prop} {d : Document σ} (h : P d) (e : Edit)
    (hset : ∀ c raw, d.grid.extent.Admits c → P { d with grid := d.grid.set c raw })
    (hsave : ∀ d : Document σ, P d → P d.save.2) (hrow : e = .addRow → P d.addRow)
    (hcolumn : e = .addColumn → P d.addColumn) : P (d.perform e) := by
  have hcell : ∀ c raw, P (d.set c raw).2 := by
    intro c raw
    cases hc : d.checkEditable c with
    | error f =>
      rw [set_error hc]
      exact h
    | ok u =>
      rw [set_ok hc]
      exact hsave _ (hset c raw ((d.checkEditable_eq_ok_iff c).mp hc))
  cases e with
  | set c raw => exact hcell c raw
  | setNamed name raw =>
    show P (d.setNamed name raw).2
    cases hname : coordOf name with
    | error f =>
      rw [setNamed_error hname]
      exact h
    | ok c =>
      rw [setNamed_ok hname]
      exact hcell c raw
  | addRow => exact hrow rfl
  | addColumn => exact hcolumn rfl
  | save => exact hsave d h

end Document

end Worksheet
