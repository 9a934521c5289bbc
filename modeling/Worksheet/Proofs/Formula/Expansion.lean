import Worksheet.Formula.Reference
import Worksheet.Proofs.Address.Name

/-!
# References become calls

What `toScript` makes of formulas that are built from names, ranges and functions:

* `takeName?_nameChars`, `matchAt?_name`, `matchAt?_range` : the candidates at names and ranges;
* `expandFrom_name`, `expandFrom_range`, `expandFrom_call`, `expandFrom_of_no_letter` : a piece of plain text
  at a time;
* `toScript_of_ordinary` : a formula without quotation marks and anchors is one piece of plain text;
* `toScript_name`, `toScript_nameBefore`, `toScript_callName`, `toScript_callRange` : whole formulas.
-/

namespace Worksheet.Formula

open Text CellRef Decimal

/-! ## Word characters -/

theorem isWord_of_alphanum {c : Char} (h : c.isAlphanum = true) : isWord c = true := by
  have hrange := toNat_of_isAlphanum h
  exact isWord_of_isAlphanum h (by omega)

theorem isDigit_eq_false_of_isWord {c : Char} (h : isWord c = false) : c.isDigit = false := by
  rw [← Bool.not_eq_true]
  intro hc
  rw [isWord_of_alphanum (isAlphanum_of_isDigit hc)] at h
  exact absurd h (by decide)

theorem stops_isDigit {rest : List Char} (h : Stops isWord rest) : Stops Char.isDigit rest :=
  fun c hc => isDigit_eq_false_of_isWord (h c hc)

theorem atWordEnd_of_stops {rest : List Char} (h : Stops isWord rest) : atWordEnd rest = true := by
  cases rest with
  | nil => rfl
  | cons c cs => simp [atWordEnd, h c (by simp)]

/-! ## Candidates -/

theorem takeName?_nameChars (r : CellRef) {rest : List Char} (h : Stops Char.isDigit rest) :
    takeName? (r.nameChars ++ rest) = some (r.nameChars, rest) := by
  have hletters := isAlpha_of_mem_columnLetters r.column
  have hstop := stops_toDigits (r.row + 1) rest
  rw [nameChars, List.append_assoc, takeName?, takeWhile_run hletters hstop, dropWhile_run hletters hstop,
    takeDigits_toDigits _ h]
  simp [columnLetters_ne_nil, Nat.toDigits_ne_nil]

theorem takeName?_of_no_digit {cs : List Char} (h : Stops Char.isDigit (cs.dropWhile Char.isAlpha)) :
    takeName? cs = none := by
  rw [takeName?, takeDigits, h.takeWhile]
  simp

theorem matchAt?_name (r : CellRef) {rest : List Char} (hend : Stops isWord rest)
    (hcolon : takeRangeEnd? rest = none) :
    matchAt? (r.nameChars ++ rest) = some ⟨r.nameChars, none, rest⟩ := by
  rw [matchAt?, takeName?_nameChars r (stops_isDigit hend)]
  simp [hcolon, atWordEnd_of_stops hend]

theorem dropWhile_isWhiteSpace_nameChars (r : CellRef) (rest : List Char) :
    (r.nameChars ++ rest).dropWhile isWhiteSpace = r.nameChars ++ rest := by
  obtain ⟨c, cs, hcs⟩ := List.exists_cons_of_ne_nil (columnLetters_ne_nil r.column)
  have hc : c.isAlpha = true := isAlpha_of_mem_columnLetters r.column c (by simp [hcs])
  have hspace := isWhiteSpace_of_isAlphanum (isAlphanum_of_isAlpha hc)
  rw [nameChars, hcs]
  simp [hspace]

theorem takeRangeEnd?_name (r : CellRef) {rest : List Char} (hend : Stops isWord rest) :
    takeRangeEnd? (':' :: (r.nameChars ++ rest)) = some (r.nameChars, rest) := by
  have hcolon : isWhiteSpace ':' = false := by decide
  rw [takeRangeEnd?, List.dropWhile_cons_of_neg (by simp [hcolon])]
  simp [dropWhile_isWhiteSpace_nameChars, takeName?_nameChars r (stops_isDigit hend), atWordEnd_of_stops hend]

theorem matchAt?_range (a b : CellRef) {rest : List Char} (hend : Stops isWord rest) :
    matchAt? (a.nameChars ++ ':' :: (b.nameChars ++ rest)) = some ⟨a.nameChars, some b.nameChars, rest⟩ := by
  rw [matchAt?, takeName?_nameChars a (Stops.cons (by decide) _)]
  simp [takeRangeEnd?_name b hend]

/-! ## Plain text -/

theorem expandFrom_skip (xs rest : List Char) :
    expandFrom xs.length true (xs ++ rest) = expandFrom 0 true rest := by
  induction xs with
  | nil => rfl
  | cons x xs ih => exact ih

/-- A candidate becomes the call of what it refers to, or stays as it is if it refers to nothing. -/
theorem expandFrom_match {cs rest : List Char} {m : Candidate} (hcs : cs ≠ [])
    (hm : matchAt? (cs ++ rest) = some m) (hrest : m.rest = rest) :
    expandFrom 0 false (cs ++ rest) = m.reference?.elim cs Reference.script ++ expandFrom 0 true rest := by
  cases cs with
  | nil => exact absurd rfl hcs
  | cons c cs =>
    have hlength : (cs ++ rest).length + 1 - rest.length = cs.length + 1 := by
      rw [List.length_append]
      omega
    rw [List.cons_append] at hm ⊢
    rw [expandFrom]
    simp only [Bool.false_eq_true, if_false, hm, hrest, hlength]
    rw [Nat.add_sub_cancel, expandFrom_skip]
    cases m.reference? with
    | some r => rfl
    | none => simp

theorem expandFrom_candidate {cs rest : List Char} {m : Candidate} {r : Reference} (hcs : cs ≠ [])
    (hm : matchAt? (cs ++ rest) = some m) (hrest : m.rest = rest) (hr : m.reference? = some r) :
    expandFrom 0 false (cs ++ rest) = r.script ++ expandFrom 0 true rest := by
  rw [expandFrom_match hcs hm hrest, hr, Option.elim_some]

theorem nameChars_ne_nil (r : CellRef) : r.nameChars ≠ [] :=
  List.append_ne_nil_of_left_ne_nil (columnLetters_ne_nil _) _

theorem expandFrom_name {r : CellRef} (hr : r.InReach) {rest : List Char} (hend : Stops isWord rest)
    (hcolon : takeRangeEnd? rest = none) :
    expandFrom 0 false (r.nameChars ++ rest) = (Reference.cell r).script ++ expandFrom 0 true rest := by
  refine expandFrom_candidate (nameChars_ne_nil r) (matchAt?_name r hend hcolon) rfl ?_
  rw [Candidate.reference?, hr.ofChars?_nameChars]
  rfl

theorem expandFrom_range {a b : CellRef} (ha : a.InReach) (hb : b.InReach) {rest : List Char}
    (hend : Stops isWord rest) :
    expandFrom 0 false (a.nameChars ++ ':' :: (b.nameChars ++ rest)) =
      (Reference.range a b).script ++ expandFrom 0 true rest := by
  have hassoc : a.nameChars ++ ':' :: (b.nameChars ++ rest) = (a.nameChars ++ ':' :: b.nameChars) ++ rest := by
    simp
  rw [hassoc]
  refine expandFrom_candidate (by simp) (by rw [← hassoc]; exact matchAt?_range a b hend) rfl ?_
  simp [Candidate.reference?, ha.ofChars?_nameChars, hb.ofChars?_nameChars]

theorem expandFrom_afterWord (c : Char) (cs : List Char) :
    expandFrom 0 true (c :: cs) = c :: expandFrom 0 (isWord c) cs := by
  rw [expandFrom]
  simp

theorem expandFrom_of_no_candidate {c : Char} {cs : List Char} (h : matchAt? (c :: cs) = none)
    (afterWord : Bool) : expandFrom 0 afterWord (c :: cs) = c :: expandFrom 0 (isWord c) cs := by
  rw [expandFrom]
  cases afterWord <;> simp [h]

theorem expandFrom_restOfWord {word : List Char} (hword : ∀ c ∈ word, isWord c = true) (rest : List Char) :
    expandFrom 0 true (word ++ rest) = word ++ expandFrom 0 true rest := by
  induction word with
  | nil => rfl
  | cons c word ih =>
    rw [List.cons_append, expandFrom_afterWord, hword c List.mem_cons_self,
      ih fun d hd => hword d (List.mem_cons_of_mem _ hd), List.cons_append]

theorem expandFrom_call {word : List Char} (hword : ∀ c ∈ word, c.isAlpha = true) (rest : List Char) :
    expandFrom 0 false (word ++ '(' :: rest) = word ++ '(' :: expandFrom 0 false rest := by
  have hparen : isWord '(' = false := by decide
  have hnone : matchAt? (word ++ '(' :: rest) = none := by
    rw [matchAt?, takeName?_of_no_digit]
    · rfl
    · rw [dropWhile_run hword (Stops.cons (by decide) _)]
      exact Stops.cons (by decide) _
  have hwordChars : ∀ c ∈ word, isWord c = true := fun c hc =>
    isWord_of_alphanum (isAlphanum_of_isAlpha (hword c hc))
  cases word with
  | nil =>
    rw [List.nil_append] at hnone ⊢
    rw [expandFrom_of_no_candidate hnone, hparen, List.nil_append]
  | cons c word =>
    rw [List.cons_append] at hnone ⊢
    rw [expandFrom_of_no_candidate hnone, hwordChars c List.mem_cons_self,
      expandFrom_restOfWord fun d hd => hwordChars d (List.mem_cons_of_mem _ hd), expandFrom_afterWord, hparen,
      List.cons_append]

theorem expandFrom_of_no_letter {cs : List Char} (h : ∀ c ∈ cs, c.isAlpha = false) (afterWord : Bool) :
    expandFrom 0 afterWord cs = cs := by
  induction cs generalizing afterWord with
  | nil => rfl
  | cons c cs ih =>
    have hnone : matchAt? (c :: cs) = none := by
      rw [matchAt?, takeName?]
      simp [h c List.mem_cons_self]
    rw [expandFrom_of_no_candidate hnone, ih fun d hd => h d (List.mem_cons_of_mem _ hd)]

/-! ## Whole formulas -/

theorem piecesFrom_outside {cs : List Char} (h : ∀ c ∈ cs, c ≠ '"') (read : List Char) :
    piecesFrom .outside read cs = [.plain (read.reverse ++ cs)] := by
  induction cs generalizing read with
  | nil => simp [piecesFrom]
  | cons c cs ih =>
    rw [piecesFrom]
    simp only [if_neg (h c List.mem_cons_self)]
    rw [ih fun d hd => h d (List.mem_cons_of_mem _ hd)]
    simp

/-- Characters that a formula may consist of so that it is one piece of plain text without anchors. -/
def isOrdinary (c : Char) : Bool :=
  c != '"' && c != '$'

theorem isOrdinary_of_isAlphanum {c : Char} (h : c.isAlphanum = true) : isOrdinary c = true := by
  rw [isOrdinary, Bool.and_eq_true, bne_iff_ne, bne_iff_ne]
  constructor <;> rintro rfl <;> exact absurd h (by decide)

theorem toScript_of_ordinary {cs : List Char} (h : ∀ c ∈ cs, isOrdinary c = true) :
    toScript (String.ofList cs) = String.ofList (expandFrom 0 false cs) := by
  have hquote : ∀ c ∈ cs, c ≠ '"' := fun c hc => by
    have := h c hc
    simp [isOrdinary] at this
    exact this.1
  have hanchor : cs.filter (· != '$') = cs := List.filter_eq_self.mpr fun c hc => by
    have := h c hc
    simp [isOrdinary] at this
    simpa using this.2
  rw [toScript, String.toList_ofList, mapPlain, pieces, piecesFrom_outside hquote]
  simp [expandPlain, hanchor]

theorem isOrdinary_of_mem_nameChars (r : CellRef) : ∀ c ∈ r.nameChars, isOrdinary c = true :=
  fun c hc => isOrdinary_of_isAlphanum (isAlphanum_of_mem_nameChars r c hc)

/-- A name before a text without letters that does not go on as a word or a range. -/
theorem toScript_nameBefore {r : CellRef} (hr : r.InReach) {rest : List Char} (hend : Stops isWord rest)
    (hcolon : takeRangeEnd? rest = none) (hletter : ∀ c ∈ rest, c.isAlpha = false)
    (hordinary : ∀ c ∈ rest, isOrdinary c = true) :
    toScript (String.ofList (r.nameChars ++ rest)) = String.ofList ((Reference.cell r).script ++ rest) := by
  rw [toScript_of_ordinary, expandFrom_name hr hend hcolon, expandFrom_of_no_letter hletter]
  intro c hc
  rcases List.mem_append.mp hc with hc | hc
  · exact isOrdinary_of_mem_nameChars r c hc
  · exact hordinary c hc

theorem toScript_name {r : CellRef} (hr : r.InReach) :
    toScript r.name = String.ofList (Reference.cell r).script := by
  have h := toScript_nameBefore hr (Stops.nil isWord) rfl (by simp) (by simp)
  rw [List.append_nil, List.append_nil] at h
  exact h

variable {word : List Char} (hword : ∀ c ∈ word, c.isAlpha = true)
include hword

theorem isOrdinary_of_mem_word : ∀ c ∈ word, isOrdinary c = true :=
  fun c hc => isOrdinary_of_isAlphanum (isAlphanum_of_isAlpha (hword c hc))

theorem toScript_callName {r : CellRef} (hr : r.InReach) :
    toScript (String.ofList (word ++ '(' :: (r.nameChars ++ [')']))) =
      String.ofList (word ++ '(' :: ((Reference.cell r).script ++ [')'])) := by
  rw [toScript_of_ordinary, expandFrom_call hword, expandFrom_name hr (Stops.cons (by decide) _) rfl,
    expandFrom_of_no_letter (by simp)]
  intro c hc
  simp only [List.mem_append, List.mem_cons, List.not_mem_nil, or_false] at hc
  obtain hc | rfl | hc | rfl := hc
  · exact isOrdinary_of_mem_word hword c hc
  · decide
  · exact isOrdinary_of_mem_nameChars r c hc
  · decide

theorem toScript_callRange {a b : CellRef} (ha : a.InReach) (hb : b.InReach) :
    toScript (String.ofList (word ++ '(' :: (a.nameChars ++ ':' :: (b.nameChars ++ [')'])))) =
      String.ofList (word ++ '(' :: ((Reference.range a b).script ++ [')'])) := by
  rw [toScript_of_ordinary, expandFrom_call hword, expandFrom_range ha hb (Stops.cons (by decide) _),
    expandFrom_of_no_letter (by simp)]
  intro c hc
  simp only [List.mem_append, List.mem_cons, List.not_mem_nil, or_false] at hc
  obtain hc | rfl | hc | rfl | hc | rfl := hc
  · exact isOrdinary_of_mem_word hword c hc
  · decide
  · exact isOrdinary_of_mem_nameChars a c hc
  · decide
  · exact isOrdinary_of_mem_nameChars b c hc
  · decide

end Worksheet.Formula
