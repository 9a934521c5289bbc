import Mathlib.Algebra.Ring.Int.Defs
import Mathlib.Algebra.Ring.Nat
import Worksheet.Address.CellRef
import Worksheet.Proofs.Text.Scanning

/-!
# Cell names are read back

* `columnNumber?_columnLetters` : column letters name the column that they were written for;
* `Spells` : the form of a name: letters and digits, each with or without a `$` before it;
* `Spells.ofChars?_eq`, `exists_spells` : texts of the form are read by their numbers, and no others are read;
* `ofChars?_nameChars`, `ofName?_name` : so is a whole name, if the column and the row counted from one are words;
* `isAlpha_of_mem_columnLetters`, `isAlphanum_of_mem_nameChars` : what a name is made of;
* `InReach`, `Coord.Addressable` : the cells that lookups of scripts can reach.
-/

namespace Worksheet.CellRef

open Text Decimal

/-! ## Column letters -/

theorem isAlpha_letter {k : Nat} (h : k < 26) : (Char.ofNat ('A'.toNat + k)).isAlpha = true := by
  revert k
  decide

theorem letterValue_letter {k : Nat} (h : k < 26) : letterValue (Char.ofNat ('A'.toNat + k)) = k + 1 := by
  revert k
  decide

theorem isAlpha_of_mem_columnLetters (n : Nat) : ∀ c ∈ columnLetters n, c.isAlpha = true := by
  induction n using Nat.strongRecOn with
  | ind n ih =>
    intro c hc
    rw [columnLetters, List.mem_append, List.mem_singleton] at hc
    obtain hc | rfl := hc
    · by_cases h : n < 26
      · rw [if_pos h] at hc
        exact absurd hc List.not_mem_nil
      · rw [if_neg h] at hc
        exact ih (n / 26 - 1) (by omega) c hc
    · exact isAlpha_letter (Nat.mod_lt n (by decide))

theorem columnLetters_ne_nil (n : Nat) : columnLetters n ≠ [] := by
  rw [columnLetters]
  exact List.append_ne_nil_of_right_ne_nil _ (List.cons_ne_nil _ _)

theorem checkWord_of_lt {n : Nat} (h : n < wordBound) : checkWord n = some n := by
  rw [checkWord, if_pos h]

theorem columnNumber?_columnLetters (n : Nat) (h : n + 1 < wordBound) :
    columnNumber? (columnLetters n) = some (n + 1) := by
  induction n using Nat.strongRecOn with
  | ind n ih =>
    have hlast : n % 26 < 26 := Nat.mod_lt n (by decide)
    rw [columnNumber?, columnLetters, List.foldlM_append]
    by_cases hn : n < 26
    · rw [if_pos hn]
      simp only [List.foldlM_nil, List.foldlM_cons, Option.pure_def, Option.bind_eq_bind, Option.bind_some]
      rw [letterValue_letter hlast, checkWord_of_lt (by omega), Option.bind_some,
        show 26 * 0 + (n % 26 + 1) = n + 1 by omega]
    · have hfirst := ih (n / 26 - 1) (by omega) (by omega)
      rw [columnNumber?] at hfirst
      rw [if_neg hn, hfirst]
      simp only [List.foldlM_nil, List.foldlM_cons, Option.pure_def, Option.bind_eq_bind, Option.bind_some]
      rw [letterValue_letter hlast, checkWord_of_lt (by omega), Option.bind_some,
        show 26 * (n / 26 - 1 + 1) + (n % 26 + 1) = n + 1 by omega]

/-! ## Characters -/

theorem isAlpha_iff (c : Char) :
    c.isAlpha = true ↔ (65 ≤ c.toNat ∧ c.toNat ≤ 90) ∨ (97 ≤ c.toNat ∧ c.toNat ≤ 122) := by
  show (decide (c.val ≥ 'A'.val ∧ c.val ≤ 'Z'.val) ||
    decide (c.val ≥ 'a'.val) && decide (c.val ≤ 'z'.val)) = true ↔ _
  simp only [Bool.or_eq_true, Bool.and_eq_true, decide_eq_true_eq, UInt32.le_iff_toNat_le, ge_iff_le]
  exact Iff.rfl

theorem isDigit_iff (c : Char) : c.isDigit = true ↔ 48 ≤ c.toNat ∧ c.toNat ≤ 57 := by
  show (decide (c.val ≥ '0'.val) && decide (c.val ≤ '9'.val)) = true ↔ _
  simp only [Bool.and_eq_true, decide_eq_true_eq, UInt32.le_iff_toNat_le, ge_iff_le]
  exact Iff.rfl

theorem isAlpha_of_isDigit {c : Char} (h : c.isDigit = true) : c.isAlpha = false := by
  rw [← Bool.not_eq_true, isAlpha_iff]
  rw [isDigit_iff] at h
  omega

theorem isAlphanum_of_isAlpha {c : Char} (h : c.isAlpha = true) : c.isAlphanum = true := by
  rw [Char.isAlphanum, h, Bool.true_or]

theorem isAlphanum_of_isDigit {c : Char} (h : c.isDigit = true) : c.isAlphanum = true := by
  rw [Char.isAlphanum, h, Bool.or_true]

theorem toNat_of_isAlphanum {c : Char} (h : c.isAlphanum = true) : 48 ≤ c.toNat ∧ c.toNat ≤ 122 := by
  have hcases : c.isAlpha = true ∨ c.isDigit = true := Bool.or_eq_true_iff.mp h
  rw [isAlpha_iff, isDigit_iff] at hcases
  omega

theorem isWhiteSpace_of_isAlphanum {c : Char} (h : c.isAlphanum = true) : isWhiteSpace c = false := by
  have hrange := toNat_of_isAlphanum h
  simp [isWhiteSpace, whiteSpaceRanges]
  omega

theorem ne_anchor_of_isAlphanum {c : Char} (h : c.isAlphanum = true) : c ≠ '$' := by
  rintro rfl
  exact absurd h (by decide)

theorem stops_toDigits (n : Nat) (rest : List Char) : Stops Char.isAlpha (Nat.toDigits 10 n ++ rest) := by
  intro c hc
  cases hdigits : Nat.toDigits 10 n with
  | nil => exact absurd hdigits Nat.toDigits_ne_nil
  | cons d ds =>
    obtain rfl : d = c := by simpa [hdigits] using hc
    exact isAlpha_of_isDigit (isDigit_of_mem_toDigits (n := n) (by simp [hdigits]))

/-! ## The form of a name -/

def anchor (present : Bool) : List Char :=
  if present then ['$'] else []

/-- Whether a text is letters and digits, at least one of each, where a `$` may stand before the letters and before
the digits. -/
structure Spells (cs letters digits : List Char) : Prop where
  text : ∃ a b, cs = anchor a ++ letters ++ (anchor b ++ digits)
  letters_ne_nil : letters ≠ []
  isAlpha : ∀ c ∈ letters, c.isAlpha = true
  digits_ne_nil : digits ≠ []
  isDigit : ∀ c ∈ digits, c.isDigit = true

theorem dropAnchor_anchor (a : Bool) {cs : List Char} (h : ∀ c ∈ cs.head?, c.isAlphanum = true) :
    dropAnchor (anchor a ++ cs) = cs := by
  cases a with
  | true => rfl
  | false =>
    cases cs with
    | nil => rfl
    | cons c cs =>
      have hc : c ≠ '$' := ne_anchor_of_isAlphanum (h c (by simp))
      simp [anchor, dropAnchor, hc]

theorem exists_anchor (cs : List Char) : ∃ a, cs = anchor a ++ dropAnchor cs := by
  unfold dropAnchor
  split
  · exact ⟨true, rfl⟩
  · exact ⟨false, rfl⟩

namespace Spells

variable {cs letters digits : List Char} (h : Spells cs letters digits)
include h

theorem isAlphanum_head_digits : ∀ c ∈ digits.head?, c.isAlphanum = true :=
  fun c hc => isAlphanum_of_isDigit (h.isDigit c (List.mem_of_mem_head? hc))

theorem isAlphanum_head_letters (rest : List Char) : ∀ c ∈ (letters ++ rest).head?, c.isAlphanum = true := by
  obtain ⟨c, ls, rfl⟩ := List.exists_cons_of_ne_nil h.letters_ne_nil
  intro d hd
  obtain rfl : c = d := by simpa using hd
  exact isAlphanum_of_isAlpha (h.isAlpha c List.mem_cons_self)

theorem stops_anchor_digits (b : Bool) : Stops Char.isAlpha (anchor b ++ digits) := by
  cases b with
  | true => exact Stops.cons (by decide) digits
  | false => exact fun c hc => isAlpha_of_isDigit (h.isDigit c (List.mem_of_mem_head? hc))

theorem ofChars?_eq :
    ofChars? cs = (columnNumber? letters).bind fun column => (rowNumber? digits).bind fun row =>
      ofNumbers? column row := by
  obtain ⟨a, b, rfl⟩ := h.text
  have hname : dropAnchor (anchor a ++ letters ++ (anchor b ++ digits)) = letters ++ (anchor b ++ digits) := by
    rw [List.append_assoc, dropAnchor_anchor a (h.isAlphanum_head_letters _)]
  have hletters : (letters ++ (anchor b ++ digits)).takeWhile Char.isAlpha = letters :=
    takeWhile_run h.isAlpha (h.stops_anchor_digits b)
  have hrest : (letters ++ (anchor b ++ digits)).dropWhile Char.isAlpha = anchor b ++ digits :=
    dropWhile_run h.isAlpha (h.stops_anchor_digits b)
  have hdigits : dropAnchor (anchor b ++ digits) = digits := dropAnchor_anchor b h.isAlphanum_head_digits
  unfold ofChars?
  simp only [hname, hletters, hrest, hdigits, List.isEmpty_eq_false_iff.mpr h.letters_ne_nil,
    List.isEmpty_eq_false_iff.mpr h.digits_ne_nil, List.all_eq_true.mpr h.isDigit]
  rfl

end Spells

theorem exists_spells {cs : List Char} {r : CellRef} (h : ofChars? cs = some r) :
    ∃ letters digits, Spells cs letters digits := by
  obtain ⟨a, ha⟩ := exists_anchor cs
  obtain ⟨b, hb⟩ := exists_anchor ((dropAnchor cs).dropWhile Char.isAlpha)
  refine ⟨(dropAnchor cs).takeWhile Char.isAlpha, dropAnchor ((dropAnchor cs).dropWhile Char.isAlpha), ?_⟩
  unfold ofChars? at h
  dsimp only at h
  split at h
  · cases h
  · rename_i hform
    simp only [Bool.or_eq_true, Bool.not_eq_true', not_or, Bool.not_eq_true, Bool.not_eq_false,
      List.isEmpty_eq_false_iff] at hform
    refine ⟨⟨a, b, ?_⟩, hform.1.1, List.all_eq_true.mp List.all_takeWhile, hform.1.2, List.all_eq_true.mp hform.2⟩
    rw [← hb, List.append_assoc, List.takeWhile_append_dropWhile, ← ha]

/-! ## Whole names -/

theorem isAlphanum_of_mem_columnLetters (n : Nat) : ∀ c ∈ columnLetters n, c.isAlphanum = true := by
  intro c hc
  exact isAlphanum_of_isAlpha (isAlpha_of_mem_columnLetters n c hc)

theorem isAlphanum_of_mem_toDigits (n : Nat) : ∀ c ∈ Nat.toDigits 10 n, c.isAlphanum = true := by
  intro c hc
  exact isAlphanum_of_isDigit (isDigit_of_mem_toDigits hc)

theorem isAlphanum_of_mem_nameChars (r : CellRef) : ∀ c ∈ r.nameChars, c.isAlphanum = true := by
  intro c hc
  rw [nameChars, List.mem_append] at hc
  obtain hc | hc := hc
  · exact isAlphanum_of_mem_columnLetters _ c hc
  · exact isAlphanum_of_mem_toDigits _ c hc

theorem spells_nameChars (r : CellRef) :
    Spells r.nameChars (columnLetters r.column) (Nat.toDigits 10 (r.row + 1)) where
  text := ⟨false, false, rfl⟩
  letters_ne_nil := columnLetters_ne_nil r.column
  isAlpha := isAlpha_of_mem_columnLetters r.column
  digits_ne_nil := Nat.toDigits_ne_nil
  isDigit := fun _ => isDigit_of_mem_toDigits

theorem ofChars?_nameChars {r : CellRef} (hcolumn : r.column + 1 < wordBound) (hrow : r.row + 1 < wordBound) :
    ofChars? r.nameChars = some r := by
  have hnumber : rowNumber? (Nat.toDigits 10 (r.row + 1)) = some (r.row + 1) := by
    rw [rowNumber?, ofDigits_toDigits, checkWord_of_lt hrow]
  rw [(spells_nameChars r).ofChars?_eq, columnNumber?_columnLetters _ hcolumn, hnumber]
  rfl

theorem trimChars_of_isAlphanum {cs : List Char} (h : ∀ c ∈ cs, c.isAlphanum = true) : trimChars cs = cs :=
  trimChars_eq_self fun c hc => isWhiteSpace_of_isAlphanum (h c hc)

theorem ofName?_name {r : CellRef} (hcolumn : r.column + 1 < wordBound) (hrow : r.row + 1 < wordBound) :
    ofName? r.name = some r := by
  rw [ofName?, name, String.toList_ofList, trimChars_of_isAlphanum (isAlphanum_of_mem_nameChars r),
    ofChars?_nameChars hcolumn hrow]

/-! ## Cells in reach of scripts -/

/-- Whether a cell's column and row are integers of scripts. -/
structure InReach (r : CellRef) : Prop where
  column_lt : r.column < 2 ^ 63
  row_lt : r.row < 2 ^ 63

theorem InReach.ofChars?_nameChars {r : CellRef} (h : r.InReach) : ofChars? r.nameChars = some r := by
  have hcolumn := h.column_lt
  have hrow := h.row_lt
  apply CellRef.ofChars?_nameChars <;> unfold wordBound <;> omega

theorem name_toCoord (r : CellRef) : r.toCoord.name = r.name := by
  rw [Coord.name, ofCoord?_toCoord]

end Worksheet.CellRef

namespace Worksheet.Coord

structure Addressable (c : Coord) : Prop where
  one_le_x : 1 ≤ c.x
  one_le_y : 1 ≤ c.y
  x_le : c.x ≤ 2 ^ 63
  y_le : c.y ≤ 2 ^ 63

theorem Addressable.exists_cellRef {c : Coord} (h : c.Addressable) :
    ∃ r : CellRef, r.InReach ∧ r.toCoord = c := by
  obtain ⟨hx, hy, hx', hy'⟩ := h
  refine ⟨⟨c.x - 1, c.y - 1⟩, ⟨by simp only; omega, by simp only; omega⟩, ?_⟩
  rw [CellRef.toCoord, Nat.sub_add_cancel hx, Nat.sub_add_cancel hy]

theorem name_first : (⟨1, 1⟩ : Coord).name = "A1" := by
  decide +kernel

theorem addressable_first : (⟨1, 1⟩ : Coord).Addressable := by
  constructor <;> decide

end Worksheet.Coord
