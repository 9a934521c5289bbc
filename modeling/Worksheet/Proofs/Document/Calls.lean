import Worksheet.Document.Render
import Worksheet.Proofs.Document.Edits

/-!
# Runs of calls where nothing is saved

If nothing is to be saved, a sheet that is opened with a store behaves as one without a store, and the store stays as
it is.

* `Call`, `Answer` : the calls of a document and what they answer; `Document.answer`, `Document.call` and, for runs of
  calls, `Document.answers`, `Document.callAll`;
* `Document.store_callAll` : a document that is not saved keeps its store;
* `Document.Twins` : documents that are not saved and differ in their stores at most; `Document.Twins.answer_eq`,
  `Document.Twins.call` : a call answers the same of both, and leaves them so; `Document.Twins.answers_eq` : so does a
  run of calls;
* `Document.load_unsaved` : a sheet that is opened is the twin of a new one.
-/

namespace Worksheet

/-- A call of a document: one that may change it, or one that looks at it. -/
inductive Call
  | edit (e : Edit)
  | raw (c : Coord)
  | display (c : Coord)
  | evaluate (c : Coord)
  | extent
  | render
  | renderRaw
  | isModified
  deriving DecidableEq, Repr

inductive Answer
  | none
  | done (r : Except Failure Unit)
  | place (r : Except Failure Coord)
  | saved (r : Except Failure Bool)
  | text (s : String)
  | value (r : Result)
  | extent (e : Extent)
  | table (rows : List (List String))
  | flag (b : Bool)

theorem Extent.cover_zero (e : Extent) : e.cover ⟨0, 0⟩ = e := by
  simp [Extent.cover]

namespace Document

section

variable {σ : Type} [Store σ]

/-! ## Runs of calls -/

def editAnswer (d : Document σ) : Edit → Answer
  | .set c raw => .done (d.set c raw).1
  | .setNamed name raw => .place (d.setNamed name raw).1
  | .addRow | .addColumn => .none
  | .save => .saved d.save.1

def answer (d : Document σ) : Call → Answer
  | .edit e => d.editAnswer e
  | .raw c => .text (d.raw c)
  | .display c => .text (d.display c)
  | .evaluate c => .value (d.evaluate c)
  | .extent => .extent d.grid.extent
  | .render => .table d.render
  | .renderRaw => .table d.renderRaw
  | .isModified => .flag d.grid.modified

/-- The document after a call. -/
def call (d : Document σ) : Call → Document σ
  | .edit e => d.perform e
  | _ => d

def callAll (d : Document σ) (calls : List Call) : Document σ :=
  calls.foldl call d

def answers (d : Document σ) : List Call → List Answer
  | [] => []
  | c :: calls => d.answer c :: (d.call c).answers calls

/-! ## The store -/

theorem store_call {d : Document σ} (h : d.saveToStore = false) (c : Call) :
    (d.call c).saveToStore = false ∧ (d.call c).store = d.store := by
  cases c with
  | edit e =>
    refine perform_induction (P := fun d' => d'.saveToStore = false ∧ d'.store = d.store) ⟨h, rfl⟩ e
      (fun _ _ _ => ⟨h, rfl⟩) (fun d' hd' => ?_) (fun _ => ⟨h, rfl⟩) fun _ => ⟨h, rfl⟩
    rw [save_of_unsaved hd'.1]
    exact hd'
  | _ => exact ⟨h, rfl⟩

theorem store_callAll {d : Document σ} (h : d.saveToStore = false) (calls : List Call) :
    (d.callAll calls).saveToStore = false ∧ (d.callAll calls).store = d.store := by
  induction calls generalizing d with
  | nil => exact ⟨h, rfl⟩
  | cons c calls ih =>
    obtain ⟨hunsaved, hstore⟩ := store_call h c
    rw [← hstore]
    exact ih hunsaved

end

/-! ## Twins -/

variable {σ τ : Type} [Store σ] [Store τ]

/-- Whether two documents show the same sheet and neither is saved. Their stores may be of different types. -/
structure Twins (d : Document σ) (e : Document τ) : Prop where
  grid : d.grid = e.grid
  options : d.options = e.options
  left : d.saveToStore = false
  right : e.saveToStore = false

namespace Twins

variable {d : Document σ} {e : Document τ} (h : d.Twins e)
include h

omit [Store σ] [Store τ] in
theorem checkEditable_eq (c : Coord) : d.checkEditable c = e.checkEditable c := by
  unfold checkEditable
  rw [h.grid]

theorem set (c : Coord) (raw : String) :
    (d.set c raw).1 = (e.set c raw).1 ∧ (d.set c raw).2.Twins (e.set c raw).2 := by
  have hcheck := h.checkEditable_eq c
  cases hc : e.checkEditable c with
  | error f =>
    rw [set_error (hcheck.trans hc), set_error hc]
    exact ⟨rfl, h⟩
  | ok u =>
    rw [set_of_unsaved h.left (hcheck.trans hc), set_of_unsaved h.right hc]
    exact ⟨rfl, { h with grid := by rw [h.grid] }⟩

theorem setNamed (name raw : String) :
    (d.setNamed name raw).1 = (e.setNamed name raw).1 ∧
      (d.setNamed name raw).2.Twins (e.setNamed name raw).2 := by
  cases hname : coordOf name with
  | error f =>
    rw [setNamed_error hname, setNamed_error hname]
    exact ⟨rfl, h⟩
  | ok c =>
    obtain ⟨hanswer, htwins⟩ := h.set c raw
    rw [setNamed_ok hname, setNamed_ok hname, hanswer]
    exact ⟨rfl, htwins⟩

theorem edit (a : Edit) : d.editAnswer a = e.editAnswer a ∧ (d.perform a).Twins (e.perform a) := by
  cases a with
  | set c raw =>
    obtain ⟨hanswer, htwins⟩ := h.set c raw
    exact ⟨congrArg Answer.done hanswer, htwins⟩
  | setNamed name raw =>
    obtain ⟨hanswer, htwins⟩ := h.setNamed name raw
    exact ⟨congrArg Answer.place hanswer, htwins⟩
  | addRow => exact ⟨rfl, { h with grid := congrArg Grid.growRows h.grid }⟩
  | addColumn => exact ⟨rfl, { h with grid := congrArg Grid.growColumns h.grid }⟩
  | save =>
    unfold editAnswer perform
    rw [save_of_unsaved h.left, save_of_unsaved h.right]
    exact ⟨rfl, h⟩

omit [Store σ] [Store τ] in
theorem display_eq : d.raw = e.raw ∧ d.display = e.display ∧ d.evaluate = e.evaluate := by
  have hraw : d.raw = e.raw := by
    funext c
    unfold raw
    rw [h.grid]
  refine ⟨hraw, ?_, ?_⟩
  · funext c
    unfold display
    rw [h.grid, h.options, hraw]
  · funext c
    unfold evaluate
    rw [h.grid, h.options, hraw]

theorem answer_eq (c : Call) : d.answer c = e.answer c := by
  obtain ⟨hraw, hdisplay, hevaluate⟩ := h.display_eq
  cases c with
  | edit a => exact (h.edit a).1
  | raw c => exact congrArg (fun f => Answer.text (f c)) hraw
  | display c => exact congrArg (fun f => Answer.text (f c)) hdisplay
  | evaluate c => exact congrArg (fun f => Answer.value (f c)) hevaluate
  | extent => exact congrArg (fun g => Answer.extent g.extent) h.grid
  | render =>
    unfold answer render renderWith
    rw [h.grid, hdisplay]
  | renderRaw =>
    unfold answer renderRaw renderWith
    rw [h.grid, hraw]
  | isModified => exact congrArg (fun g => Answer.flag g.modified) h.grid

theorem call (c : Call) : (d.call c).Twins (e.call c) := by
  cases c with
  | edit a => exact (h.edit a).2
  | _ => exact h

/-- Whatever is called, each call answers the same of both. -/
theorem answers_eq (calls : List Call) : d.answers calls = e.answers calls := by
  induction calls generalizing d e with
  | nil => rfl
  | cons c calls ih => rw [answers, answers, h.answer_eq c, ih (h.call c)]

end Twins

/-! ## Opening -/

/-- If nothing is to be saved, then a sheet opens whatever the store holds; every run of calls answers what it answers
of a new sheet, saving has never anything to write, and the store is still the one that was given. -/
theorem load_unsaved {config : Config} (hoff : config.saveToStore = false) (store : σ) :
    ∃ d, load config store = .ok d ∧ ∀ calls,
      d.answers calls = (new config : Document τ).answers calls ∧
        (d.callAll calls).save.1 = .ok false ∧ (d.callAll calls).store = some store := by
  have hload : load config store = .ok (ofSnapshot config .empty config.extent (some store)) := by
    rw [load, hoff]
    show Except.ok (ofSnapshot config .empty (config.extent.cover ⟨0, 0⟩) (some store)) = _
    rw [Extent.cover_zero]
  have htwins : (ofSnapshot config .empty config.extent (some store)).Twins (new config : Document τ) :=
    ⟨rfl, rfl, hoff, hoff⟩
  refine ⟨_, hload, fun calls => ?_⟩
  obtain ⟨hunsaved, hstore⟩ := store_callAll htwins.left calls
  exact ⟨htwins.answers_eq calls, by rw [save_of_unsaved hunsaved], hstore⟩

def unreadable : MemoryStore :=
  ⟨[(Config.default.tableKey, "[1, 2")]⟩

def unsavedConfig : Config :=
  { Config.default with saveToStore := false }

/-- A sheet that could not be read opens if nothing is to be saved, and a change of it is not saved. -/
theorem load_unsaved_unreadable :
    unsavedConfig.saveToStore = false ∧
      (load Config.default unreadable).map (fun _ => ()) = .error .snapshot ∧
      ∃ d, load unsavedConfig unreadable = .ok d ∧
        d.answers [.edit (.set ⟨1, 1⟩ "=1/0"), .edit .addRow, .render, .isModified] =
          (new unsavedConfig : Document MemoryStore).answers
            [.edit (.set ⟨1, 1⟩ "=1/0"), .edit .addRow, .render, .isModified] ∧
        (d.call (.edit (.set ⟨1, 1⟩ "=1/0"))).grid.modified = true ∧
        (d.callAll [.edit (.set ⟨1, 1⟩ "=1/0")]).save.1 = .ok false ∧
        (d.callAll [.edit (.set ⟨1, 1⟩ "=1/0")]).store = some unreadable := by
  obtain ⟨d, hload, hcalls⟩ := load_unsaved (τ := MemoryStore) (show unsavedConfig.saveToStore = false from rfl) unreadable
  obtain ⟨-, hsave, hstore⟩ := hcalls [.edit (.set ⟨1, 1⟩ "=1/0")]
  refine ⟨rfl, by rfl, d, hload, (hcalls _).1, ?_, hsave, hstore⟩
  obtain rfl := Except.ok.inj hload
  rfl

end Document

end Worksheet
