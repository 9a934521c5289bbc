import Mathlib.Logic.Function.Iterate
import Worksheet.Proofs.Evaluation.Steps

/-!
# Sheets of references

In a sheet whose formulas are all names of cells, the evaluation of a cell walks from one cell to the one
that it names.

* `Grid.Names`, `Grid.ReferenceOnly` : cells that store a name, and sheets without other formulas;
* `Grid.IsWalk` : the cells that are reached one after the other;
* `settled?` : what the evaluation of `p` answers at a cell of the walk, if it ends there;
* `followChain_name`, `followChain_walk` : one step of the walk and all of it;
* `evaluateCell_walk` : the first cell of the walk that ends it decides.
-/

namespace Worksheet

/-! ## Walks -/

/-- Whether a cell stores the formula that is the name of a data cell in reach. -/
structure Grid.Names (g : Grid) (a b : Coord) : Prop where
  addressable : b.Addressable
  stored : g.get a = ofFormula b.name

/-- Whether every formula of a sheet is the name of a cell. -/
def Grid.ReferenceOnly (g : Grid) : Prop :=
  ∀ a, (formula? (g.get a)).isSome → ∃ b, g.Names a b

/-- The cells reached from `p`: the one that it names, then the one which that one names, and so on while
there are formulas. -/
structure Grid.IsWalk (g : Grid) (p : Coord) (c : Nat → Coord) : Prop where
  first : g.Names p (c 0)
  next : ∀ k, (formula? (g.get (c k))).isSome → g.Names (c k) (c (k + 1))

/-- What the evaluation of `p` answers at a cell that it has reached, unless it goes on from there: a cell
past the extent, `p` itself, or a literal. -/
def settled? (g : Grid) (p c : Coord) : Option Result :=
  if !g.extent.contains c then some (.error .outOfRange)
  else if c = p then some (.error .selfReference)
  else if (formula? (g.get c)).isSome then none
  else some (.ok (.ofRaw (g.get c)))

theorem isSome_of_settled? {g : Grid} {p c : Coord} (h : settled? g p c = none) :
    (formula? (g.get c)).isSome := by
  unfold settled? at h
  split at h
  · exact absurd h (by simp)
  · split at h
    · exact absurd h (by simp)
    · split at h
      · assumption
      · exact absurd h (by simp)

noncomputable def Grid.named (g : Grid) (a : Coord) : Coord :=
  open Classical in if h : ∃ b, g.Names a b then h.choose else a

theorem Grid.ReferenceOnly.names_named {g : Grid} (hg : g.ReferenceOnly) {a : Coord}
    (ha : (formula? (g.get a)).isSome) : g.Names a (g.named a) := by
  have hnames := hg a ha
  rw [Grid.named, dif_pos hnames]
  exact hnames.choose_spec

theorem Grid.ReferenceOnly.exists_isWalk {g : Grid} (hg : g.ReferenceOnly) {p : Coord}
    (hp : (formula? (g.get p)).isSome) : ∃ c, g.IsWalk p c := by
  refine ⟨fun k => g.named^[k + 1] p, hg.names_named hp, fun k hk => ?_⟩
  rw [Function.iterate_succ_apply' g.named (k + 1)]
  exact hg.names_named hk

/-! ## The evaluation walks -/

section

variable {g : Grid} {limit : Nat} (hlimit : Script.Suffices limit) (nested : Context → String → Result)
  {p : Coord} (depth : Nat)
include hlimit

/-- One step of a walk: it ends, it has gone on for too long, or it goes on to the next cell. -/
theorem followChain_name {b : Coord} (hb : b.Addressable) (more : Nat) :
    followChain (evaluateStep g limit nested ⟨p, depth⟩) more b.name =
      match settled? g p b, formula? (g.get b), more with
      | some r, _, _ => r
      | none, some next, more + 1 => followChain (evaluateStep g limit nested ⟨p, depth⟩) more next
      | none, _, _ => .error .recursionLimit := by
  rw [followChain, evaluateStep_name hlimit nested _ hb, resolveCell, settled?]
  by_cases hextent : (!g.extent.contains b) = true
  · rw [if_pos hextent, if_pos hextent]
    rfl
  · rw [if_neg hextent, if_neg hextent]
    by_cases hself : b = p
    · rw [if_pos hself, if_pos hself]
      rfl
    · rw [if_neg hself, if_neg hself, Except.map]
      cases hformula : formula? (g.get b) with
      | none =>
        simp only [Option.isSome_none, CellValue.formula?_display_ofRaw hformula]
        rfl
      | some next =>
        simp only [eq_ofFormula_of_formula? hformula, CellValue.display_ofRaw_ofFormula, formula?_ofFormula,
          Option.isSome_some, if_true]
        cases more <;> rfl

theorem followChain_walk {c : Nat → Coord} (hc : g.IsWalk p c) (more k : Nat) (hk : (c k).Addressable) :
    followChain (evaluateStep g limit nested ⟨p, depth⟩) more (c k).name =
      ((List.range (more + 1)).findSome? fun i => settled? g p (c (k + i))).getD (.error .recursionLimit) := by
  induction more generalizing k with
  | zero =>
    rw [followChain_name hlimit nested depth hk]
    cases hsettled : settled? g p (c k) with
    | some r => simp [hsettled]
    | none => simp [hsettled]
  | succ more ih =>
    rw [followChain_name hlimit nested depth hk, List.range_succ_eq_map, List.findSome?_cons, Nat.add_zero]
    cases hsettled : settled? g p (c k) with
    | some r => rfl
    | none =>
      have hnext := hc.next k (isSome_of_settled? hsettled)
      rw [hnext.stored, formula?_ofFormula, List.findSome?_map]
      simp only [Function.comp_def, ih (k + 1) hnext.addressable, Nat.succ_eq_add_one]
      simp only [Nat.add_comm, Nat.add_left_comm]

end

/-- In a sheet of references the evaluation of a formula cell `p` is decided by the first of the cells
reached from it, up to the `maxChain`-th, that lies past the extent, is `p` itself, or stores a literal; if
there is none, the limit is. The test for a cell that refers to itself is always against `p`. -/
theorem evaluateCell_walk {g : Grid} (hg : g.ReferenceOnly) {o : Options}
    (ho : o.maxOperations = Options.default.maxOperations) {p : Coord} (hp : (formula? (g.get p)).isSome) :
    (∃ c, g.IsWalk p c) ∧ ∀ c, g.IsWalk p c →
      evaluateCell g o p =
        some (((List.range (o.maxChain + 1)).findSome? fun k => settled? g p (c k)).getD
          (.error .recursionLimit)) := by
  refine ⟨hg.exists_isWalk hp, fun c hc => ?_⟩
  have hlimit : Script.Suffices o.maxOperations := by
    rw [ho]
    exact suffices_default
  rw [evaluateCell_ofFormula hc.first.stored, evaluateWithin_eq, Context.root,
    followChain_walk hlimit _ _ hc _ _ hc.first.addressable]
  simp only [Nat.zero_add]

def Grid.threeCells : Grid :=
  (((Grid.new ⟨5, 5⟩).set ⟨1, 1⟩ "=B1").set ⟨2, 1⟩ "=C1").set ⟨3, 1⟩ "done"

theorem Grid.threeCells_names_first : Grid.threeCells.Names ⟨1, 1⟩ ⟨2, 1⟩ where
  addressable := by constructor <;> decide
  stored := by decide +kernel

theorem Grid.threeCells_names_second : Grid.threeCells.Names ⟨2, 1⟩ ⟨3, 1⟩ where
  addressable := by constructor <;> decide
  stored := by decide +kernel

theorem Grid.threeCells_referenceOnly : Grid.threeCells.ReferenceOnly := by
  intro a ha
  by_cases h1 : a = ⟨1, 1⟩
  · exact ⟨_, h1 ▸ Grid.threeCells_names_first⟩
  · by_cases h2 : a = ⟨2, 1⟩
    · exact ⟨_, h2 ▸ Grid.threeCells_names_second⟩
    · simp only [Grid.threeCells, Grid.get_set, Grid.get_new, if_neg h1, if_neg h2] at ha
      split at ha <;> exact absurd ha (by decide)

theorem evaluateCell_threeCells :
    evaluateCell Grid.threeCells ⟨10, 3, 1000000, "INVALID"⟩ ⟨1, 1⟩ = some (.ok (.text "done")) := by
  have hwalk : Grid.threeCells.IsWalk ⟨1, 1⟩ fun k => if k = 0 then ⟨2, 1⟩ else ⟨3, 1⟩ := by
    refine ⟨Grid.threeCells_names_first, fun k hk => ?_⟩
    by_cases hzero : k = 0
    · subst hzero
      exact Grid.threeCells_names_second
    · rw [if_neg hzero] at hk
      exact absurd hk (by decide)
  have hlimit : (⟨10, 3, 1000000, "INVALID"⟩ : Options).maxOperations = Options.default.maxOperations := rfl
  rw [(evaluateCell_walk Grid.threeCells_referenceOnly hlimit (by decide)).2 _ hwalk]
  rfl

end Worksheet
