import Worksheet.Proofs.Address.Canonical

/-!
# Cells and places in machine words

The conversions between cells and places, and the writing of names, once more with machine words instead of numbers.
Every sum and every difference is checked, so that one that is no word is seen.

* `checkedSub`, `exists_checkedAdd`, `exists_checkedSub` : checked arithmetic is exact where the result is a word;
* `WordRef`, `WordCoord` : cells and places in words, and the cells and places that they stand for;
* `WordRef.toCoord?`, `WordRef.LandsAt` : the place of a cell; `exists_landsAt_of_ofName?` : of one that is read;
* `WordRef.ofCoord?`, `WordRef.exists_ofCoord?` : the cell at a place;
* `letters?`, `WordRef.nameChars?`, `letters?_eq`, `WordRef.LandsAt.nameChars?_eq` : the name of a cell.
-/

namespace Worksheet

open CellRef

/-! ## Checked arithmetic -/

def CellRef.checkedSub (m n : UInt64) : Option UInt64 :=
  if n ≤ m then some (m - n) else none

theorem toNat_lt_wordBound (n : UInt64) : n.toNat < wordBound :=
  n.toNat_lt

theorem exists_toNat_eq {n : Nat} (h : n < wordBound) : ∃ k : UInt64, k.toNat = n :=
  ⟨UInt64.ofNat n, UInt64.toNat_ofNat_of_lt' h⟩

theorem exists_checkedAdd {m n : UInt64} (h : m.toNat + n.toNat < wordBound) :
    ∃ k, checkedAdd m n = some k ∧ k.toNat = m.toNat + n.toNat := by
  refine ⟨m + n, if_pos h, ?_⟩
  rw [UInt64.toNat_add]
  exact Nat.mod_eq_of_lt h

theorem exists_checkedSub {m n : UInt64} (h : n.toNat ≤ m.toNat) :
    ∃ k, checkedSub m n = some k ∧ k.toNat = m.toNat - n.toNat :=
  have hle : n ≤ m := UInt64.le_iff_toNat_le.mpr h
  ⟨m - n, if_pos hle, UInt64.toNat_sub_of_le m n hle⟩

/-! ## Cells and places -/

/-- A data cell: its column and its row, counted from zero, in machine words. -/
structure WordRef where
  column : UInt64
  row : UInt64
  deriving DecidableEq

structure WordCoord where
  x : UInt64
  y : UInt64
  deriving DecidableEq

def WordRef.ref (w : WordRef) : CellRef :=
  ⟨w.column.toNat, w.row.toNat⟩

def WordCoord.coord (c : WordCoord) : Coord :=
  ⟨c.x.toNat, c.y.toNat⟩

def WordCoord.extent (c : WordCoord) : Extent :=
  ⟨c.x.toNat, c.y.toNat⟩

/-- Whether a place is that of a data cell. -/
def WordCoord.IsData (c : WordCoord) : Prop :=
  1 ≤ c.x.toNat ∧ 1 ≤ c.y.toNat

instance (c : WordCoord) : Decidable c.IsData :=
  inferInstanceAs (Decidable (_ ∧ _))

theorem WordCoord.coord_injective : Function.Injective coord := by
  intro c d h
  obtain ⟨hx, hy⟩ := Coord.mk.inj h
  cases c
  cases d
  rw [WordCoord.mk.injEq]
  exact ⟨UInt64.toNat_inj.mp hx, UInt64.toNat_inj.mp hy⟩

theorem WordCoord.isHeader_coord (c : WordCoord) : c.coord.isHeader = true ↔ c.x = 0 ∨ c.y = 0 := by
  rw [Coord.isHeader, Bool.or_eq_true, decide_eq_true_eq, decide_eq_true_eq, ← UInt64.toNat_inj, ← UInt64.toNat_inj]
  exact Iff.rfl

namespace WordRef

def toCoord? (w : WordRef) : Option WordCoord := do
  return ⟨← checkedAdd w.column 1, ← checkedAdd w.row 1⟩

def ofCoord? (c : WordCoord) : Option (Option WordRef) :=
  if c.x = 0 ∨ c.y = 0 then some none
  else do return some ⟨← checkedSub c.x 1, ← checkedSub c.y 1⟩

/-- Whether a cell has this place. -/
structure LandsAt (w : WordRef) (c : WordCoord) : Prop where
  toCoord?_eq : w.toCoord? = some c
  coord_eq : c.coord = w.ref.toCoord
  isData : c.IsData

theorem exists_landsAt {w : WordRef} (hcolumn : w.column.toNat + 1 < wordBound) (hrow : w.row.toNat + 1 < wordBound) :
    ∃ c, w.LandsAt c := by
  obtain ⟨x, hx, hxvalue⟩ := exists_checkedAdd (n := 1) hcolumn
  obtain ⟨y, hy, hyvalue⟩ := exists_checkedAdd (n := 1) hrow
  refine ⟨⟨x, y⟩, ?_, ?_, ?_⟩
  · rw [toCoord?, hx, hy]
    rfl
  · rw [WordCoord.coord, hxvalue, hyvalue]
    rfl
  · rw [WordCoord.IsData, hxvalue, hyvalue]
    exact ⟨Nat.le_add_left 1 _, Nat.le_add_left 1 _⟩

theorem exists_landsAt_of_ofName? {s : String} {r : CellRef} (h : ofName? s = some r) :
    ∃ w : WordRef, w.ref = r ∧ ∃ c, w.LandsAt c := by
  obtain ⟨hcolumn, hrow⟩ := lt_wordBound_of_ofName? h
  obtain ⟨column, hc⟩ := exists_toNat_eq (Nat.lt_of_succ_lt hcolumn)
  obtain ⟨row, hr⟩ := exists_toNat_eq (Nat.lt_of_succ_lt hrow)
  refine ⟨⟨column, row⟩, ?_, exists_landsAt ?_ ?_⟩
  · rw [ref, hc, hr]
  · rw [hc]
    exact hcolumn
  · rw [hr]
    exact hrow

theorem exists_ofCoord? {c : WordCoord} (hdata : c.IsData) :
    ∃ w, ofCoord? c = some (some w) ∧ CellRef.ofCoord? c.coord = some w.ref ∧ w.LandsAt c := by
  have hheader : ¬(c.x = 0 ∨ c.y = 0) := by
    rw [← UInt64.toNat_inj, ← UInt64.toNat_inj, UInt64.toNat_zero]
    have hpos := hdata
    unfold WordCoord.IsData at hpos
    omega
  obtain ⟨column, hcolumn, hcvalue⟩ := exists_checkedSub (n := 1) hdata.1
  obtain ⟨row, hrow, hrvalue⟩ := exists_checkedSub (n := 1) hdata.2
  have hx : column.toNat + 1 = c.x.toNat := by rw [hcvalue]; exact Nat.sub_add_cancel hdata.1
  have hy : row.toNat + 1 = c.y.toNat := by rw [hrvalue]; exact Nat.sub_add_cancel hdata.2
  obtain ⟨d, hd⟩ := exists_landsAt (w := ⟨column, row⟩) (by rw [hx]; exact toNat_lt_wordBound _)
    (by rw [hy]; exact toNat_lt_wordBound _)
  have hcoord : d.coord = c.coord := by
    rw [hd.coord_eq, ref, CellRef.toCoord, hx, hy, WordCoord.coord]
  refine ⟨⟨column, row⟩, ?_, ?_, WordCoord.coord_injective hcoord ▸ hd⟩
  · rw [ofCoord?, if_neg hheader, hcolumn, hrow]
    rfl
  · rw [CellRef.ofCoord?, if_neg fun h => hheader (c.isHeader_coord.mp h), ref, hcvalue, hrvalue]
    rfl

end WordRef

/-! ## Names -/

/-- The letter with this number, by its code, which is a byte. -/
def CellRef.letter? (k : UInt64) : Option Char :=
  if 'A'.toUInt8.toNat + k.toUInt8.toNat < 2 ^ 8 then some (Char.ofUInt8 ('A'.toUInt8 + k.toUInt8)) else none

/-- The letters before the last one, if there are any, are those of a column before this one. -/
theorem CellRef.toNat_of_checkedSub_div {n rest : UInt64} (h : checkedSub (n / 26) 1 = some rest) :
    26 ≤ n.toNat ∧ rest.toNat = n.toNat / 26 - 1 := by
  obtain ⟨hle, hrest⟩ := Option.ite_none_right_eq_some.mp h
  have hquotient : (n / 26).toNat = n.toNat / 26 := UInt64.toNat_div n 26
  have hpos : 1 ≤ n.toNat / 26 := by
    rw [← hquotient]
    exact UInt64.le_iff_toNat_le.mp hle
  rw [← Option.some.inj hrest, UInt64.toNat_sub_of_le _ _ hle, hquotient]
  exact ⟨by omega, rfl⟩

def CellRef.letters? (n : UInt64) : Option (List Char) :=
  match h : checkedSub (n / 26) 1 with
  | none => do return [← letter? (n % 26)]
  | some rest => do return (← letters? rest) ++ [← letter? (n % 26)]
termination_by n.toNat
decreasing_by
  obtain ⟨hle, hvalue⟩ := toNat_of_checkedSub_div h
  omega

def WordRef.nameChars? (w : WordRef) : Option (List Char) := do
  return (← letters? w.column) ++ Nat.toDigits 10 (← checkedAdd w.row 1).toNat

theorem letter?_mod (n : UInt64) : letter? (n % 26) = some (Char.ofNat ('A'.toNat + n.toNat % 26)) := by
  have hall : ∀ k < 26, letter? (UInt64.ofNat k) = some (Char.ofNat ('A'.toNat + k)) := by decide
  have hletter := hall (n % 26).toNat (Nat.mod_lt n.toNat (by decide))
  rwa [UInt64.ofNat_toNat, UInt64.toNat_mod] at hletter

theorem letters?_eq (n : UInt64) : letters? n = some (columnLetters n.toNat) := by
  induction n using letters?.induct with
  | case1 n h =>
    have hone : n.toNat < 26 := by
      by_contra hmany
      obtain ⟨rest, hrest, -⟩ := exists_checkedSub (m := n / 26) (n := 1) (by
        rw [UInt64.toNat_div]
        show 1 ≤ n.toNat / 26
        omega)
      exact absurd (h.symm.trans hrest) (by simp)
    rw [letters?, columnLetters, if_pos hone]
    split
    · rw [letter?_mod]
      rfl
    · rename_i rest hrest
      exact absurd (h.symm.trans hrest) (by simp)
  | case2 n rest h ih =>
    obtain ⟨hmany, hvalue⟩ := toNat_of_checkedSub_div h
    rw [letters?, columnLetters, if_neg (Nat.not_lt.mpr hmany), ← hvalue]
    split
    · rename_i hnone
      exact absurd (h.symm.trans hnone) (by simp)
    · rename_i rest' hrest'
      obtain rfl := Option.some.inj (h.symm.trans hrest')
      rw [ih, letter?_mod]
      rfl

/-- The name of a cell that has a place can be written. -/
theorem WordRef.LandsAt.nameChars?_eq {w : WordRef} {c : WordCoord} (h : w.LandsAt c) :
    w.nameChars? = some w.ref.nameChars := by
  have hy : c.y.toNat = w.row.toNat + 1 := congrArg Coord.y h.coord_eq
  have hword : w.row.toNat + 1 < wordBound := by
    rw [← hy]
    exact toNat_lt_wordBound _
  obtain ⟨row, hrow, hvalue⟩ := exists_checkedAdd (n := 1) hword
  rw [nameChars?, letters?_eq, hrow, CellRef.nameChars]
  show some (_ ++ Nat.toDigits 10 row.toNat) = _
  rw [hvalue]
  rfl

end Worksheet
