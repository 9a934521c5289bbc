import Worksheet.Document.Basic
import Worksheet.Proofs.Address.Grammar

/-!
# Canonical names

A cell has one canonical name, the one it is written with; every other name of it has that one as its canonical form.

* `canonicalChars`, `canonicalName` : the canonical form of a name;
* `Spells.canonicalChars_eq` : it is made of the letters and the digits;
* `name_of_ofName?` : a cell is written with the canonical form of any name that it is read from;
* `coordOf_name` : a place is read back from its name;
* `canonicalName_roundTrip` : names and cells.
-/

namespace Worksheet.CellRef

open Text Decimal

/-- The canonical form of a name: without white space around it and without `$`, in capital letters, and the row without
zeros before it. -/
def canonicalChars (cs : List Char) : List Char :=
  let name := (trimChars cs).filter (· ≠ '$')
  (name.takeWhile Char.isAlpha).map Char.toUpper ++ (name.dropWhile Char.isAlpha).dropWhile (· = '0')

def canonicalName (s : String) : String :=
  String.ofList (canonicalChars s.toList)

theorem filter_anchor_append (a : Bool) {cs : List Char} (h : ∀ c ∈ cs, c.isAlphanum = true) :
    (anchor a ++ cs).filter (· ≠ '$') = cs := by
  have hcs : cs.filter (· ≠ '$') = cs :=
    List.filter_eq_self.mpr fun c hc => decide_eq_true (ne_anchor_of_isAlphanum (h c hc))
  rw [List.filter_append, hcs]
  cases a <;> rfl

theorem Spells.canonicalChars_eq {cs letters digits : List Char} (h : Spells (trimChars cs) letters digits) :
    canonicalChars cs = letters.map Char.toUpper ++ digits.dropWhile (· = '0') := by
  obtain ⟨a, b, htext⟩ := h.text
  have hname : (trimChars cs).filter (· ≠ '$') = letters ++ digits := by
    rw [htext, List.filter_append, filter_anchor_append a fun c hc => isAlphanum_of_isAlpha (h.isAlpha c hc),
      filter_anchor_append b fun c hc => isAlphanum_of_isDigit (h.isDigit c hc)]
  have hstops : Stops Char.isAlpha digits := h.stops_anchor_digits false
  rw [canonicalChars, hname, takeWhile_run h.isAlpha hstops, dropWhile_run h.isAlpha hstops]

/-- A cell is written with the canonical form of any name that it is read from. -/
theorem name_of_ofName? {s : String} {r : CellRef} (h : ofName? s = some r) : r.name = canonicalName s := by
  obtain ⟨letters, digits, hspells, -, hrow, -, rfl⟩ := ofChars?_eq_some_iff.mp h
  have hzeros := dropWhile_zeros hspells.isDigit
  rw [if_neg (by omega)] at hzeros
  rw [name, nameChars, canonicalName, hspells.canonicalChars_eq, hzeros, Nat.sub_add_cancel hrow,
    columnLetters_columnValue hspells.letters_ne_nil hspells.isAlpha]

theorem lt_wordBound_of_ofName? {s : String} {r : CellRef} (h : ofName? s = some r) :
    r.column + 1 < wordBound ∧ r.row + 1 < wordBound := by
  obtain ⟨letters, digits, hspells, hcolumn_lt, hrow, hrow_lt, rfl⟩ := ofChars?_eq_some_iff.mp h
  have hcolumn := columnValue_pos hspells.letters_ne_nil
  dsimp only
  omega

theorem coordOf_name {c : Coord} (hdata : 1 ≤ c.x ∧ 1 ≤ c.y) (hword : c.x < wordBound ∧ c.y < wordBound) :
    Document.coordOf c.name = .ok c := by
  have hcell : ofCoord? c = some ⟨c.x - 1, c.y - 1⟩ := by
    have hheader : ¬c.isHeader = true := by
      rw [Coord.isHeader, Bool.or_eq_true, decide_eq_true_eq, decide_eq_true_eq]
      omega
    rw [ofCoord?, if_neg hheader]
  have hcolumn : c.x - 1 + 1 = c.x := Nat.sub_add_cancel hdata.1
  have hrow : c.y - 1 + 1 = c.y := Nat.sub_add_cancel hdata.2
  rw [Coord.name, hcell, Document.coordOf, ofName?_name (by rw [hcolumn]; exact hword.1) (by rw [hrow]; exact hword.2)]
  simp only [toCoord, hcolumn, hrow]

/-- Cells are read back from their names, places from theirs, and a name that is read has the name of its cell as its
canonical form. So two names stand for one cell exactly if they have one canonical form. -/
theorem canonicalName_roundTrip :
    (∀ r : CellRef, r.column + 1 < wordBound → r.row + 1 < wordBound → ofName? r.name = some r) ∧
      (∀ c : Coord, 1 ≤ c.x ∧ 1 ≤ c.y → c.x < wordBound ∧ c.y < wordBound → Document.coordOf c.name = .ok c) ∧
      (∀ s r, ofName? s = some r → r.name = canonicalName s) ∧
      ∀ s t r q, ofName? s = some r → ofName? t = some q → (r = q ↔ canonicalName s = canonicalName t) := by
  refine ⟨fun _ => ofName?_name, fun _ => coordOf_name, fun _ _ => name_of_ofName?, ?_⟩
  intro s t r q hr hq
  have hreadR := ofName?_name (lt_wordBound_of_ofName? hr).1 (lt_wordBound_of_ofName? hr).2
  have hreadQ := ofName?_name (lt_wordBound_of_ofName? hq).1 (lt_wordBound_of_ofName? hq).2
  rw [← name_of_ofName? hr, ← name_of_ofName? hq]
  constructor
  · rintro rfl
    rfl
  · intro hname
    rw [hname] at hreadR
    exact Option.some.inj (hreadR.symm.trans hreadQ)

/-- Two names of the cell in the column before `AAA`, and the last place. -/
theorem canonicalName_roundTrip_anchored :
    ofName? " $zZ$007" = some ⟨701, 6⟩ ∧ ofName? "Zz07" = some ⟨701, 6⟩ ∧
      name ⟨701, 6⟩ = canonicalName " $zZ$007" ∧ canonicalName " $zZ$007" = canonicalName "Zz07" ∧
      ofName? (name ⟨701, 6⟩) = some ⟨701, 6⟩ ∧
      Document.coordOf (Coord.name ⟨wordBound - 1, wordBound - 1⟩) = .ok ⟨wordBound - 1, wordBound - 1⟩ := by
  have hanchored : ofName? " $zZ$007" = some ⟨701, 6⟩ := by decide +kernel
  have hplain : ofName? "Zz07" = some ⟨701, 6⟩ := by decide +kernel
  obtain ⟨hname, hcoord, hcanonical, hsame⟩ := canonicalName_roundTrip
  refine ⟨hanchored, hplain, hcanonical _ _ hanchored, (hsame _ _ _ _ hanchored hplain).mp rfl, ?_, ?_⟩
  · exact hname ⟨701, 6⟩ (by decide) (by decide)
  · exact hcoord ⟨wordBound - 1, wordBound - 1⟩ (by decide) (by decide)

end Worksheet.CellRef
