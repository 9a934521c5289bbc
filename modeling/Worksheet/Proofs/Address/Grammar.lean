import Worksheet.Proofs.Address.Numbers

/-!
# The grammar of cell names

A text of the form of a name is read if its column and its row are words, and no other text is.

* `ofChars?_eq_some_iff` : which cell a text names;
* `named_iff_spells` : the grammar, and that each number on the way is exact.
-/

namespace Worksheet.CellRef

open Text Decimal

/-! ## What a name stands for -/

theorem checkWord_eq_some_iff {n m : Nat} : checkWord n = some m ↔ n < wordBound ∧ m = n := by
  rw [checkWord]
  split
  · rename_i h
    simp [h, eq_comm]
  · rename_i h
    simp [h]

theorem ofChars?_eq_some_iff {cs : List Char} {r : CellRef} :
    ofChars? cs = some r ↔ ∃ letters digits, Spells cs letters digits ∧ columnValue letters < wordBound ∧
      1 ≤ rowValue digits ∧ rowValue digits < wordBound ∧ r = ⟨columnValue letters - 1, rowValue digits - 1⟩ := by
  constructor
  · intro h
    obtain ⟨letters, digits, hspells⟩ := exists_spells h
    have hcolumn := columnValue_pos hspells.letters_ne_nil
    rw [hspells.ofChars?_eq, columnNumber?_eq hspells.isAlpha, rowNumber?_eq] at h
    obtain ⟨column, hcolumn?, h⟩ := Option.bind_eq_some_iff.mp h
    obtain ⟨row, hrow?, h⟩ := Option.bind_eq_some_iff.mp h
    obtain ⟨hcolumn_lt, rfl⟩ := checkWord_eq_some_iff.mp hcolumn?
    obtain ⟨hrow_lt, rfl⟩ := checkWord_eq_some_iff.mp hrow?
    unfold ofNumbers? at h
    split at h
    · cases h
    · exact ⟨letters, digits, hspells, hcolumn_lt, by omega, hrow_lt, (Option.some.inj h).symm⟩
  · rintro ⟨letters, digits, hspells, hcolumn_lt, hrow, hrow_lt, rfl⟩
    have hcolumn := columnValue_pos hspells.letters_ne_nil
    rw [hspells.ofChars?_eq, columnNumber?_eq hspells.isAlpha, rowNumber?_eq, checkWord_of_lt hcolumn_lt,
      checkWord_of_lt hrow_lt, Option.bind_some, Option.bind_some, ofNumbers?, if_neg (by omega)]

/-- A text names a cell exactly if, white space around it apart, it is letters and digits with or without a `$` before
them, of which the column and the row, counted from one, are words. On the way, after each letter and each digit, the
machine word that has been read is the exact number, unless that is no word; then nothing more is read. -/
theorem named_iff_spells (s : String) :
    (∀ r, ofName? s = some r ↔ ∃ letters digits, Spells (trimChars s.toList) letters digits ∧
        columnValue letters < wordBound ∧ 1 ≤ rowValue digits ∧ rowValue digits < wordBound ∧
        r = ⟨columnValue letters - 1, rowValue digits - 1⟩) ∧
      ∀ letters digits, Spells (trimChars s.toList) letters digits → 1 ≤ columnValue letters ∧
        (∀ start, start <+: letters → columnNumber? start = checkWord (columnValue start) ∧
          (readWord? 26 letterWord start).map UInt64.toNat = checkWord (columnValue start)) ∧
        ∀ start, start <+: digits → rowNumber? start = checkWord (rowValue start) ∧
          (readWord? 10 digitWord start).map UInt64.toNat = checkWord (rowValue start) := by
  refine ⟨fun r => ofChars?_eq_some_iff, fun letters digits h => ⟨columnValue_pos h.letters_ne_nil, ?_, ?_⟩⟩
  · intro start hstart
    have halpha : ∀ c ∈ start, c.isAlpha = true := fun c hc => h.isAlpha c (hstart.subset hc)
    exact ⟨columnNumber?_eq halpha, readWord?_eq (by decide) fun c hc => toNat_letterWord (halpha c hc)⟩
  · intro start hstart
    have hdigit : ∀ c ∈ start, c.isDigit = true := fun c hc => h.isDigit c (hstart.subset hc)
    exact ⟨rowNumber?_eq start, readWord?_eq (by decide) fun c hc => toNat_digitWord (hdigit c hc)⟩

/-- The last cell that has a name, and the column after it. -/
theorem named_iff_spells_last :
    ofName? "\t$gkgwbyLWRXTLPO$0018446744073709551615 " = some ⟨wordBound - 2, wordBound - 2⟩ ∧
      columnNumber? "GKGWBYLWRXTLPP".toList = none := by
  constructor
  · have hform : Spells (trimChars "\t$gkgwbyLWRXTLPO$0018446744073709551615 ".toList) "gkgwbyLWRXTLPO".toList
        "0018446744073709551615".toList :=
      ⟨⟨true, true, by decide +kernel⟩, by decide, List.all_eq_true.mp rfl, by decide, List.all_eq_true.mp rfl⟩
    refine ((named_iff_spells _).1 _).mpr ⟨_, _, hform, ?_, ?_, ?_, ?_⟩ <;> decide +kernel
  · have hform : Spells (trimChars "GKGWBYLWRXTLPP1".toList) "GKGWBYLWRXTLPP".toList "1".toList :=
      ⟨⟨false, false, by decide +kernel⟩, by decide, List.all_eq_true.mp rfl, by decide, List.all_eq_true.mp rfl⟩
    rw [(((named_iff_spells _).2 _ _ hform).2.1 _ (List.prefix_refl _)).1]
    decide +kernel

end Worksheet.CellRef
