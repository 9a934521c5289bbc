import Worksheet.Proofs.Address.MachineWords
import Worksheet.Proofs.Evaluation.Descent

/-!
# Arithmetic on references

The lookups of scripts, once more in machine words with a check of every sum and every difference: from integers to
cells and places, and from two places to the columns between them. No check fails, and the results are those of the
evaluator. A place that is negative is refused before anything is looked up.

* `WordRef.ofInts?`, `WordRef.exists_ofInts?` : the cell that integers of a script stand for;
* `width?`, `width?_eq` : the columns between two corners, as far as they lie in a sheet;
* `HasNegative`, `refusing`, `runIn_callNative` : a call with a negative argument;
* `references_exact` : all references.
-/

namespace Worksheet

open Script CellRef

/-! ## Integers of scripts -/

def WordRef.ofInts? (column row : Int64) : Option WordRef :=
  if column < 0 ∨ row < 0 then none else some ⟨column.toUInt64, row.toUInt64⟩

theorem WordRef.exists_ofInts? {column row : Int64} (hcolumn : 0 ≤ column) (hrow : 0 ≤ row) :
    ∃ w, ofInts? column row = some w ∧ place? column row = some (w.ref.column, w.ref.row) ∧
      ∃ c, w.LandsAt c := by
  have hsigns : ¬(column < 0 ∨ row < 0) := not_or.mpr ⟨Int64.not_lt.mpr hcolumn, Int64.not_lt.mpr hrow⟩
  have hcvalue : column.toUInt64.toNat = column.toNatClampNeg := Int64.toNat_toUInt64_of_le hcolumn
  have hrvalue : row.toUInt64.toNat = row.toNatClampNeg := Int64.toNat_toUInt64_of_le hrow
  have hbound : 2 ^ 63 + 1 < wordBound := by decide
  refine ⟨⟨column.toUInt64, row.toUInt64⟩, if_neg hsigns, ?_, exists_landsAt ?_ ?_⟩
  · rw [place?, if_neg hsigns, ref, hcvalue, hrvalue, Int64.toNat_toInt, Int64.toNat_toInt]
  · rw [hcvalue]
    exact Nat.lt_trans (Nat.succ_lt_succ column.toNatClampNeg_lt) hbound
  · rw [hrvalue]
    exact Nat.lt_trans (Nat.succ_lt_succ row.toNatClampNeg_lt) hbound

/-! ## The columns of a range -/

/-- The number of columns between two corners in a sheet with this last place; none if nothing lies in it. -/
def width? (last a b : WordCoord) : Option (Option UInt64) :=
  let left := min a.x b.x
  let right := min (max a.x b.x) last.x
  let top := min a.y b.y
  let bottom := min (max a.y b.y) last.y
  if right < left ∨ bottom < top then some none
  else do return some (← checkedAdd (← checkedSub right left) 1)

theorem toNat_min (m n : UInt64) : (min m n).toNat = min m.toNat n.toNat := by
  show (if m ≤ n then m else n).toNat = _
  rw [apply_ite UInt64.toNat, Nat.min_def]
  exact if_congr UInt64.le_iff_toNat_le rfl rfl

theorem toNat_max (m n : UInt64) : (max m n).toNat = max m.toNat n.toNat := by
  show (if m ≤ n then n else m).toNat = _
  rw [apply_ite UInt64.toNat, Nat.max_def]
  exact if_congr UInt64.le_iff_toNat_le rfl rfl

/-- Between data cells, neither the difference nor the sum leaves the words. -/
theorem width?_eq (last : WordCoord) {a b : WordCoord} (ha : a.IsData) (hb : b.IsData) :
    (width? last a b).map (Option.map UInt64.toNat) =
      some ((Rectangle.ofCorners? last.extent a.coord b.coord).map Rectangle.width) := by
  have hleft : (min a.x b.x).toNat = min a.coord.x b.coord.x := toNat_min _ _
  have hright : (min (max a.x b.x) last.x).toNat = min (max a.coord.x b.coord.x) last.extent.maxX := by
    rw [toNat_min, toNat_max]
    rfl
  have htop : (min a.y b.y).toNat = min a.coord.y b.coord.y := toNat_min _ _
  have hbottom : (min (max a.y b.y) last.y).toNat = min (max a.coord.y b.coord.y) last.extent.maxY := by
    rw [toNat_min, toNat_max]
    rfl
  unfold width? Rectangle.ofCorners?
  simp only [UInt64.lt_iff_toNat_lt, ← hleft, ← hright, ← htop, ← hbottom]
  by_cases hnone : (min (max a.x b.x) last.x).toNat < (min a.x b.x).toNat ∨
      (min (max a.y b.y) last.y).toNat < (min a.y b.y).toNat
  · rw [if_pos hnone, if_pos hnone]
    rfl
  · -- the first column of data is column one, so there are no more columns than the number of the last one
    have hpos : 1 ≤ (min a.x b.x).toNat := by
      rw [toNat_min]
      exact Nat.le_min.mpr ⟨ha.1, hb.1⟩
    have hbound := toNat_lt_wordBound (min (max a.x b.x) last.x)
    obtain ⟨more, hmore, hvalue⟩ := exists_checkedSub (Nat.not_lt.mp (not_or.mp hnone).1)
    obtain ⟨width, hwidth, hexact⟩ := exists_checkedAdd (m := more) (n := 1) (by rw [hvalue, UInt64.toNat_one]; omega)
    rw [if_neg hnone, if_neg hnone, hmore]
    show (checkedAdd more 1 >>= fun width => some (some width)).map _ = _
    rw [hwidth]
    show some (some width.toNat) = _
    rw [hexact, hvalue]
    rfl

/-- From a header the columns of the largest sheet are one too many for a word. -/
example : width? ⟨18446744073709551615, 1⟩ ⟨0, 1⟩ ⟨18446744073709551615, 1⟩ = none := by decide

/-! ## Negative places -/

inductive HasNegative : String → List Value → Prop
  | cell {column row : Int64} (h : column < 0 ∨ row < 0) : HasNegative "CELL" [.int column, .int row]
  | range {column₁ row₁ column₂ row₂ : Int64} (h : column₁ < 0 ∨ row₁ < 0 ∨ column₂ < 0 ∨ row₂ < 0) :
      HasNegative "RANGE" [.int column₁, .int row₁, .int column₂, .int row₂]

theorem callNative_of_hasNegative {name : String} {arguments : List Value} (h : HasNegative name arguments) :
    callNative name arguments = Run.ask .negative := by
  cases h with
  | cell h => rw [callNative, place?, if_pos h]
  | @range column₁ row₁ column₂ row₂ h =>
    rw [callNative]
    by_cases hfirst : column₁ < 0 ∨ row₁ < 0
    · rw [place?, if_pos hfirst]
    · rw [place?, place?, if_neg hfirst, if_pos ((or_assoc.mpr h).resolve_left hfirst)]

section

variable {m : Type → Type} [Monad m]

/-- The answers to lookups, where those at a negative place are refused and the others have effects. -/
def refusing (lookUp : Lookup → m Reply) : Lookup → m Reply
  | .negative => pure (.error .ref)
  | q => lookUp q

theorem refusing_answerIn (g : Grid) (nested : Lookup → Context → String → m Result) (ctx : Context) :
    refusing (answerIn g nested ctx) = answerIn g nested ctx := by
  funext q
  cases q <;> rfl

theorem runIn_callNative [LawfulMonad m] {name : String} {arguments : List Value} (h : HasNegative name arguments)
    (lookUp : Lookup → m Reply) (s : State) :
    (callNative name arguments s).runIn (refusing lookUp) = pure (.error (.fault (.thrown (.code .ref))), s) := by
  rw [callNative_of_hasNegative h]
  exact pure_bind _ _

end

/-! ## All references -/

/-- The arithmetic on references does not leave the machine words. A name that is read, and integers of a script that
are not negative, stand for a cell that has a place, whose column and row are at least one. At every place that is no
header there is a cell; its name can be written, and it has that place. The columns between two such places, as far as
they lie in a sheet, are counted exactly. A call with a negative argument fails for that, and nothing is looked up or
evaluated for it, whatever that would do. -/
theorem references_exact :
    (∀ s r, ofName? s = some r → ∃ w : WordRef, w.ref = r ∧ ∃ c, w.LandsAt c) ∧
    (∀ column row : Int64, 0 ≤ column → 0 ≤ row →
      ∃ w, WordRef.ofInts? column row = some w ∧ place? column row = some (w.ref.column, w.ref.row) ∧
        ∃ c, w.LandsAt c) ∧
    (∀ c : WordCoord, c.IsData →
      ∃ w, WordRef.ofCoord? c = some (some w) ∧ CellRef.ofCoord? c.coord = some w.ref ∧ w.LandsAt c ∧
        w.nameChars? = some w.ref.nameChars) ∧
    (∀ last a b : WordCoord, a.IsData → b.IsData →
      (width? last a b).map (Option.map UInt64.toNat) =
        some ((Rectangle.ofCorners? last.extent a.coord b.coord).map Rectangle.width)) ∧
    (∀ (m : Type → Type) [Monad m] (g : Grid) (nested : Lookup → Context → String → m Result) (ctx : Context),
      refusing (answerIn g nested ctx) = answerIn g nested ctx) ∧
    ∀ (m : Type → Type) [Monad m] [LawfulMonad m] (lookUp : Lookup → m Reply) (name : String) (arguments : List Value)
      (s : State), HasNegative name arguments →
      (callNative name arguments s).runIn (refusing lookUp) = pure (.error (.fault (.thrown (.code .ref))), s) := by
  refine ⟨fun _ _ => WordRef.exists_landsAt_of_ofName?, fun _ _ => WordRef.exists_ofInts?, fun c hdata => ?_,
    fun last _ _ => width?_eq last, fun _ _ => refusing_answerIn,
    fun _ _ _ lookUp _ _ s h => runIn_callNative h lookUp s⟩
  obtain ⟨w, hw, hcell, hlands⟩ := WordRef.exists_ofCoord? hdata
  exact ⟨w, hw, hcell, hlands, hlands.nameChars?_eq⟩

def WordCoord.greatest : WordCoord :=
  ⟨18446744073709551615, 18446744073709551615⟩

def countingLookups (_ : Lookup) : StateM Nat Reply := do
  modify (· + 1)
  return .ok .unit

/-- The last name, the greatest integers, the last place, the largest sheet, and a range whose second corner is before
the first column. -/
theorem references_exact_greatest :
    ofName? "GKGWBYLWRXTLPO18446744073709551615" = some ⟨18446744073709551614, 18446744073709551614⟩ ∧
    (∃ w : WordRef, w.ref = ⟨18446744073709551614, 18446744073709551614⟩ ∧ ∃ c, w.LandsAt c) ∧
    (∃ w, WordRef.ofInts? Int64.maxValue Int64.maxValue = some w ∧ ∃ c, w.LandsAt c) ∧
    (∃ w, WordRef.ofCoord? .greatest = some (some w) ∧ w.LandsAt .greatest ∧ w.nameChars? = some w.ref.nameChars) ∧
    (width? .greatest ⟨1, 1⟩ .greatest).map (Option.map UInt64.toNat) = some (some 18446744073709551615) ∧
    HasNegative "RANGE" [.int 0, .int 0, .int (-1), .int 0] ∧
    (callNative "RANGE" [.int 0, .int 0, .int (-1), .int 0] ⟨0, []⟩).runIn (refusing countingLookups) =
      pure (.error (.fault (.thrown (.code .ref))), ⟨0, []⟩) := by
  obtain ⟨hnames, hints, hplaces, hwidths, -, hnegative⟩ := references_exact
  have hname : ofName? "GKGWBYLWRXTLPO18446744073709551615" = some ⟨18446744073709551614, 18446744073709551614⟩ := by
    decide
  have hfirst : WordCoord.IsData ⟨1, 1⟩ := by decide
  have hgreatest : WordCoord.greatest.IsData := by decide
  have hrange : HasNegative "RANGE" [.int 0, .int 0, .int (-1), .int 0] := .range (by decide)
  obtain ⟨w, hw, -, hlands⟩ := hints Int64.maxValue Int64.maxValue (by decide) (by decide)
  obtain ⟨v, hv, -, hplace, hwritten⟩ := hplaces .greatest hgreatest
  refine ⟨hname, hnames _ _ hname, ⟨w, hw, hlands⟩, ⟨v, hv, hplace, hwritten⟩, ?_, hrange,
    hnegative _ countingLookups _ _ _ hrange⟩
  exact hwidths .greatest ⟨1, 1⟩ .greatest hfirst hgreatest

end Worksheet
