import Mathlib.Data.List.Induction
import Mathlib.Data.Nat.Digits.Defs
import Worksheet.Proofs.Address.Name

/-!
# The numbers that names spell

Letters spell a column in base 26 with the figures 1 to 26, digits spell a row in base 10.

* `positional` : the number that figures spell in a base, the first one being the highest;
* `letterRank`, `columnValue`, `rowValue` : letters and digits as figures;
* `foldlM_checkWord`, `columnNumber?_eq`, `rowNumber?_eq` : a number is read exactly if it is a word, and not at all
  otherwise;
* `readWord?`, `readWord?_eq` : reading in machine words, with a check of every product and every sum, is the same;
* `columnLetters_columnValue`, `dropWhile_zeros` : a number is written with the figures that spell it.
-/

namespace Worksheet.CellRef

open Text Decimal

/-! ## Figures -/

/-- The number that figures spell in a base, the first one being the highest. -/
def positional (base : Nat) (figure : Char → Nat) (cs : List Char) : Nat :=
  Nat.ofDigits base (cs.map figure).reverse

/-- The place of a letter in the alphabet, counted from one; small letters count as capital ones. -/
def letterRank (c : Char) : Nat :=
  "ABCDEFGHIJKLMNOPQRSTUVWXYZ".toList.idxOf c.toUpper + 1

def columnValue (letters : List Char) : Nat :=
  positional 26 letterRank letters

def rowValue (digits : List Char) : Nat :=
  positional 10 digitValue digits

theorem positional_nil (base : Nat) (figure : Char → Nat) : positional base figure [] = 0 := rfl

theorem positional_concat (base : Nat) (figure : Char → Nat) (cs : List Char) (c : Char) :
    positional base figure (cs ++ [c]) = base * positional base figure cs + figure c := by
  rw [positional, List.map_append, List.reverse_append, List.map_singleton, List.reverse_singleton,
    List.singleton_append, Nat.ofDigits_cons, Nat.add_comm]
  rfl

theorem positional_le_concat {base : Nat} (hbase : 0 < base) (figure : Char → Nat) (cs : List Char) (c : Char) :
    positional base figure cs ≤ positional base figure (cs ++ [c]) := by
  rw [positional_concat]
  exact Nat.le_trans (Nat.le_mul_of_pos_left _ hbase) (Nat.le_add_right _ _)

theorem forall_letter {P : Char → Prop}
    (h : ∀ k < 26, P (Char.ofNat ('A'.toNat + k)) ∧ P (Char.ofNat ('a'.toNat + k))) {c : Char}
    (hc : c.isAlpha = true) : P c := by
  have hcapital : 'A'.toNat = 65 := rfl
  have hsmall : 'a'.toNat = 97 := rfl
  rw [isAlpha_iff] at hc
  rcases hc with hc | hc
  · have hletter := (h (c.toNat - 65) (by omega)).1
    rwa [hcapital, Nat.add_sub_cancel' hc.1, Char.ofNat_toNat] at hletter
  · have hletter := (h (c.toNat - 97) (by omega)).2
    rwa [hsmall, Nat.add_sub_cancel' hc.1, Char.ofNat_toNat] at hletter

theorem forall_digit {P : Char → Prop} (h : ∀ k < 10, P (Char.ofNat ('0'.toNat + k))) {c : Char}
    (hc : c.isDigit = true) : P c := by
  have hzero : '0'.toNat = 48 := rfl
  rw [isDigit_iff] at hc
  have hdigit := h (c.toNat - 48) (by omega)
  rwa [hzero, Nat.add_sub_cancel' hc.1, Char.ofNat_toNat] at hdigit

theorem letterValue_eq {c : Char} (h : c.isAlpha = true) : letterValue c = letterRank c :=
  forall_letter (P := fun c => letterValue c = letterRank c) (by decide +kernel) h

theorem letterRank_pos (c : Char) : 1 ≤ letterRank c :=
  Nat.le_add_left 1 _

theorem letterRank_le {c : Char} (h : c.isAlpha = true) : letterRank c ≤ 26 :=
  forall_letter (P := fun c => letterRank c ≤ 26) (by decide +kernel) h

theorem columnValue_pos {letters : List Char} (hne : letters ≠ []) : 1 ≤ columnValue letters := by
  obtain ⟨ls, c, rfl⟩ := (List.eq_nil_or_concat letters).resolve_left hne
  rw [columnValue, List.concat_eq_append, positional_concat]
  exact Nat.le_trans (letterRank_pos c) (Nat.le_add_left _ _)

/-! ## Reading numbers -/

/-- Figures that are read one after the other, with a check of each number that comes up, spell their number if it is
a word. If a number that comes up is no word, neither is the last one. -/
theorem foldlM_checkWord {base : Nat} (hbase : 0 < base) (figure : Char → Nat) (cs : List Char) :
    cs.foldlM (fun n c => checkWord (base * n + figure c)) 0 = checkWord (positional base figure cs) := by
  induction cs using List.reverseRecOn with
  | nil => rfl
  | append_singleton cs c ih =>
    have hle := positional_le_concat hbase figure cs c
    rw [List.foldlM_append, ih]
    by_cases hword : positional base figure cs < wordBound
    · rw [checkWord_of_lt hword, positional_concat]
      simp
    · rw [checkWord, if_neg hword, checkWord, if_neg (by omega)]
      rfl

theorem foldlM_congr {α β : Type} {f g : α → β → Option α} {xs : List β} (h : ∀ a, ∀ x ∈ xs, f a x = g a x) (a : α) :
    xs.foldlM f a = xs.foldlM g a := by
  induction xs generalizing a with
  | nil => rfl
  | cons x xs ih =>
    rw [List.foldlM_cons, List.foldlM_cons, h a x List.mem_cons_self]
    exact bind_congr fun b => ih (fun b y hy => h b y (List.mem_cons_of_mem x hy)) b

theorem columnNumber?_eq {letters : List Char} (h : ∀ c ∈ letters, c.isAlpha = true) :
    columnNumber? letters = checkWord (columnValue letters) := by
  rw [columnValue, ← foldlM_checkWord (by decide)]
  exact foldlM_congr (fun n c hc => by rw [letterValue_eq (h c hc)]) 0

theorem ofDigits_eq_rowValue (digits : List Char) : ofDigits digits = rowValue digits := by
  induction digits using List.reverseRecOn with
  | nil => rfl
  | append_singleton ds d ih =>
    rw [rowValue, positional_concat, ← rowValue, ← ih, ofDigits, List.foldl_append]
    rfl

theorem rowNumber?_eq (digits : List Char) : rowNumber? digits = checkWord (rowValue digits) := by
  rw [rowNumber?, ofDigits_eq_rowValue]

/-! ## Reading in machine words -/

def checkedMul (m n : UInt64) : Option UInt64 :=
  if m.toNat * n.toNat < wordBound then some (m * n) else none

def checkedAdd (m n : UInt64) : Option UInt64 :=
  if m.toNat + n.toNat < wordBound then some (m + n) else none

/-- The number that figures spell, read one after the other in machine words. -/
def readWord? (base : UInt64) (figure : Char → UInt64) (cs : List Char) : Option UInt64 :=
  cs.foldlM (fun n c => (checkedMul n base).bind fun m => checkedAdd m (figure c)) 0

def letterWord (c : Char) : UInt64 :=
  (c.toUpper.toUInt8 - 'A'.toUInt8).toUInt64 + 1

def digitWord (c : Char) : UInt64 :=
  (c.toUInt8 - '0'.toUInt8).toUInt64

theorem toNat_letterWord {c : Char} (h : c.isAlpha = true) : (letterWord c).toNat = letterRank c :=
  forall_letter (P := fun c => (letterWord c).toNat = letterRank c) (by decide +kernel) h

theorem toNat_digitWord {c : Char} (h : c.isDigit = true) : (digitWord c).toNat = digitValue c :=
  forall_digit (P := fun c => (digitWord c).toNat = digitValue c) (by decide) h

/-- A checked product and a checked sum are exact together, or one of them is past the last word and so is the exact
number. -/
theorem toNat_checkedMul_add (n base d : UInt64) :
    ((checkedMul n base).bind fun m => checkedAdd m d).map UInt64.toNat =
      checkWord (base.toNat * n.toNat + d.toNat) := by
  rw [checkedMul, checkWord, Nat.mul_comm base.toNat]
  by_cases hproduct : n.toNat * base.toNat < wordBound
  · have hexact : (n * base).toNat = n.toNat * base.toNat := by
      rw [UInt64.toNat_mul]
      exact Nat.mod_eq_of_lt hproduct
    rw [if_pos hproduct, Option.bind_some, checkedAdd, hexact]
    by_cases hsum : n.toNat * base.toNat + d.toNat < wordBound
    · rw [if_pos hsum, if_pos hsum, Option.map_some, UInt64.toNat_add, hexact]
      exact congrArg some (Nat.mod_eq_of_lt hsum)
    · rw [if_neg hsum, if_neg hsum, Option.map_none]
  · rw [if_neg hproduct, if_neg (by omega)]
    rfl

/-- Figures are read in machine words as they are read without a bound on the numbers in between. -/
theorem readWord?_eq {base : UInt64} (hbase : 0 < base.toNat) {figure : Char → UInt64} {value : Char → Nat}
    {cs : List Char} (hfigure : ∀ c ∈ cs, (figure c).toNat = value c) :
    (readWord? base figure cs).map UInt64.toNat = checkWord (positional base.toNat value cs) := by
  have hfold : ∀ (ds : List Char) (n : UInt64), (∀ c ∈ ds, (figure c).toNat = value c) →
      (ds.foldlM (fun n c => (checkedMul n base).bind fun m => checkedAdd m (figure c)) n).map UInt64.toNat =
        ds.foldlM (fun n c => checkWord (base.toNat * n + value c)) n.toNat := by
    intro ds
    induction ds with
    | nil => exact fun n _ => rfl
    | cons c ds ih =>
      intro n hds
      rw [List.foldlM_cons, List.foldlM_cons, ← hds c List.mem_cons_self, ← toNat_checkedMul_add]
      cases (checkedMul n base).bind fun m => checkedAdd m (figure c) with
      | none => rfl
      | some m => exact ih m fun d hd => hds d (List.mem_cons_of_mem c hd)
  rw [readWord?, hfold cs 0 hfigure]
  exact foldlM_checkWord hbase value cs

/-! ## Writing what was spelled -/

theorem toUpper_eq {c : Char} (h : c.isAlpha = true) : c.toUpper = Char.ofNat ('A'.toNat + (letterRank c - 1)) :=
  forall_letter (P := fun c => c.toUpper = Char.ofNat ('A'.toNat + (letterRank c - 1))) (by decide +kernel) h

theorem columnLetters_columnValue {letters : List Char} (hne : letters ≠ []) (h : ∀ c ∈ letters, c.isAlpha = true) :
    columnLetters (columnValue letters - 1) = letters.map Char.toUpper := by
  induction letters using List.reverseRecOn with
  | nil => exact absurd rfl hne
  | append_singleton ls c ih =>
    have hc : c.isAlpha = true := h c (by simp)
    have hls : ∀ d ∈ ls, d.isAlpha = true := fun d hd => h d (List.mem_append_left _ hd)
    have hpos := letterRank_pos c
    have hle := letterRank_le hc
    have hvalue : columnValue (ls ++ [c]) - 1 = 26 * columnValue ls + (letterRank c - 1) := by
      rw [columnValue, positional_concat, ← columnValue]
      omega
    have hlast : (26 * columnValue ls + (letterRank c - 1)) % 26 = letterRank c - 1 := by omega
    rw [columnLetters, hvalue, hlast, List.map_append, List.map_singleton, toUpper_eq hc]
    congr 1
    by_cases hnil : ls = []
    · subst hnil
      exact if_pos (by rw [columnValue, positional_nil]; omega)
    · have hfirst := columnValue_pos hnil
      rw [if_neg (by omega), ← ih hnil hls]
      congr 1
      omega

theorem digitChar_digitValue {c : Char} (h : c.isDigit = true) : Nat.digitChar (digitValue c) = c :=
  forall_digit (P := fun c => Nat.digitChar (digitValue c) = c) (by decide) h

theorem dropWhile_zeros {digits : List Char} (h : ∀ c ∈ digits, c.isDigit = true) :
    digits.dropWhile (· = '0') = if rowValue digits = 0 then [] else Nat.toDigits 10 (rowValue digits) := by
  induction digits using List.reverseRecOn with
  | nil => rfl
  | append_singleton ds d ih =>
    have hd : d.isDigit = true := h d (by simp)
    have hfigure : digitValue d < 10 := forall_digit (P := fun c => digitValue c < 10) (by decide) hd
    have hlast : Nat.toDigits 10 (digitValue d) = [d] := by
      rw [Nat.toDigits_of_lt_base hfigure, digitChar_digitValue hd]
    have hvalue : rowValue (ds ++ [d]) = 10 * rowValue ds + digitValue d := positional_concat 10 digitValue ds d
    rw [List.dropWhile_append, ih fun c hc => h c (List.mem_append_left _ hc), hvalue]
    by_cases hfirst : rowValue ds = 0
    · rw [hfirst, if_pos rfl, List.isEmpty_nil, if_pos rfl, Nat.mul_zero, Nat.zero_add, hlast]
      by_cases hd0 : d = '0'
      · subst hd0
        rfl
      · have hpos : digitValue d ≠ 0 := by
          intro hzero
          have hchar := digitChar_digitValue hd
          rw [hzero] at hchar
          exact hd0 hchar.symm
        rw [if_neg hpos, List.dropWhile_cons_of_neg (by simpa using hd0)]
    · rw [if_neg hfirst, List.isEmpty_eq_false_iff.mpr Nat.toDigits_ne_nil, if_neg Bool.false_ne_true,
        if_neg (by omega), ← hlast, Nat.toDigits_append_toDigits (by decide) (Nat.pos_of_ne_zero hfirst) hfigure]

end Worksheet.CellRef
