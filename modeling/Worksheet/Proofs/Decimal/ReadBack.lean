import Worksheet.CellValue
import Worksheet.Proofs.Address.Name
import Worksheet.Proofs.CellValue
import Worksheet.Proofs.Decimal.Shortest
import Worksheet.Proofs.Text.Scanning

/-!
# Displayed numbers are read back

* `unsigned?_whole`, `unsigned?_point` : numerals of digits with and without a point;
* `LaysOut`, `laysOut_positional` : digits and zeros around a point stand for the number that they lay out;
* `read?_signed` : so they do after a sign;
* `not_lt_zero`, `not_infinity_lt` : a positive finite float is displayed without an exponent;
* `read?_displayed` : the displayed text of a finite float is read as that float;
* `ofRaw_display_number` : so it is as the text of a cell.
-/

namespace Worksheet.Decimal

open Text

/-! ## Digits -/

theorem ofDigits_append_zeros (ds : List Char) (k : Nat) :
    ofDigits (ds ++ List.replicate k '0') = ofDigits ds * 10 ^ k := by
  induction k with
  | zero => rw [List.replicate_zero, List.append_nil, Nat.pow_zero, Nat.mul_one]
  | succ k ih =>
    have hlast : ofDigits (ds ++ List.replicate k '0' ++ ['0']) = 10 * ofDigits (ds ++ List.replicate k '0') := by
      rw [ofDigits, ofDigits, List.foldl_append]
      rfl
    rw [List.replicate_succ', ← List.append_assoc, hlast, ih, Nat.mul_comm 10, Nat.mul_assoc,
      ← Nat.pow_succ]

theorem ofDigits_zeros_append (k : Nat) (ds : List Char) : ofDigits (List.replicate k '0' ++ ds) = ofDigits ds := by
  induction k with
  | zero => rfl
  | succ k ih => exact ih

/-! ## Numerals -/

namespace Numeral

variable {ds es : List Char} (hds : ∀ c ∈ ds, c.isDigit = true) (hne : ds ≠ [])
include hds hne

theorem unsigned?_whole (negative : Bool) : unsigned? negative ds = some ⟨negative, ofDigits ds, 0⟩ := by
  have htake := takeDigits_run hds (Stops.nil _)
  rw [List.append_nil] at htake
  have hempty : ds.isEmpty = false := List.isEmpty_eq_false_iff.mpr hne
  simp [unsigned?, htake, takeFraction, hempty, exponent?]

theorem unsigned?_point (hes : ∀ c ∈ es, c.isDigit = true) (negative : Bool) :
    unsigned? negative (ds ++ '.' :: es) = some ⟨negative, ofDigits (ds ++ es), -es.length⟩ := by
  have htake := takeDigits_run hds (Stops.cons (by decide : '.'.isDigit = false) es)
  have hfraction := takeDigits_run hes (Stops.nil _)
  rw [List.append_nil] at hfraction
  have hempty : ds.isEmpty = false := List.isEmpty_eq_false_iff.mpr hne
  simp [unsigned?, htake, takeFraction, hfraction, hempty, exponent?]

end Numeral

/-! ## Positional texts -/

/-- The characters of numbers without an exponent. -/
def IsPlain (c : Char) : Prop :=
  c.isDigit = true ∨ c = '.' ∨ c = '-'

theorem isWhiteSpace_of_isPlain {c : Char} (h : IsPlain c) : isWhiteSpace c = false := by
  rcases h with hdigit | rfl | rfl
  · exact CellRef.isWhiteSpace_of_isAlphanum (CellRef.isAlphanum_of_isDigit hdigit)
  · decide
  · decide

theorem isDigit_of_mem_zeros {k : Nat} {c : Char} (h : c ∈ List.replicate k '0') : c.isDigit = true := by
  rw [List.eq_of_mem_replicate h]
  decide

/-- A text without a sign that is read as this number, apart from the number's size in digits. -/
structure LaysOut (cs : List Char) (s : Scaled) : Prop where
  starts : ∃ c ∈ cs.head?, c.isDigit = true
  plain : ∀ c ∈ cs, IsPlain c
  reads : ∀ negative, ∃ n, Numeral.unsigned? negative cs = some n ∧ n.negative = negative ∧ n.toWord = s.toWord

theorem exists_head_isDigit {ds : List Char} (hds : ∀ c ∈ ds, c.isDigit = true) (hne : ds ≠ []) (rest : List Char) :
    ∃ c ∈ (ds ++ rest).head?, c.isDigit = true := by
  obtain ⟨c, cs, rfl⟩ := List.exists_cons_of_ne_nil hne
  exact ⟨c, rfl, hds c List.mem_cons_self⟩

theorem laysOut_whole {ds : List Char} {s : Scaled} (hds : ∀ c ∈ ds, c.isDigit = true) (hne : ds ≠ [])
    (h : Numeral.toWord ⟨false, ofDigits ds, 0⟩ = s.toWord) : LaysOut ds s where
  starts := by
    have hstarts := exists_head_isDigit hds hne []
    rwa [List.append_nil] at hstarts
  plain c hc := .inl (hds c hc)
  reads negative := ⟨_, Numeral.unsigned?_whole hds hne negative, rfl, h⟩

theorem laysOut_point {ds es : List Char} {s : Scaled} (hds : ∀ c ∈ ds, c.isDigit = true) (hne : ds ≠ [])
    (hes : ∀ c ∈ es, c.isDigit = true) (h : Numeral.toWord ⟨false, ofDigits (ds ++ es), -es.length⟩ = s.toWord) :
    LaysOut (ds ++ '.' :: es) s where
  starts := exists_head_isDigit hds hne _
  plain c hc := by
    rcases List.mem_append.mp hc with hc | hc
    · exact .inl (hds c hc)
    · rcases List.mem_cons.mp hc with rfl | hc
      · exact .inr (.inl rfl)
      · exact .inl (hes c hc)
  reads negative := ⟨_, Numeral.unsigned?_point hds hne hes negative, rfl, h⟩

theorem laysOut_positional (s : Scaled) : LaysOut (Layout.positional "" s).toList s := by
  have hdigits : ∀ c ∈ Nat.toDigits 10 s.digits, c.isDigit = true := fun c => isDigit_of_mem_toDigits
  have hne : Nat.toDigits 10 s.digits ≠ [] := Nat.toDigits_ne_nil
  unfold Layout.positional
  dsimp only
  -- the point is left out, or stands among the digits, or before all of them
  by_cases hwhole : 0 ≤ s.exponent
  · rw [if_pos hwhole, String.toList_append, String.toList_ofList, String.toList_empty, List.append_nil]
    refine laysOut_whole (fun c hc => ?_) (by simp [hne]) ?_
    · rcases List.mem_append.mp hc with hc | hc
      · exact hdigits c hc
      · exact isDigit_of_mem_zeros hc
    · rw [ofDigits_append_zeros, ofDigits_toDigits, Numeral.toWord_mul_pow false false,
        show (0 : Int) + s.exponent.toNat = s.exponent by omega]
      rfl
  · rw [if_neg hwhole]
    by_cases hinside : (-s.exponent).toNat < (Nat.toDigits 10 s.digits).length
    · rw [if_pos hinside, String.toList_ofList]
      refine laysOut_point (fun c hc => hdigits c (List.mem_of_mem_take hc)) ?_
        (fun c hc => hdigits c (List.mem_of_mem_drop hc)) ?_
      · rw [ne_eq, List.take_eq_nil_iff]
        rintro (hzero | hnil)
        · omega
        · exact hne hnil
      · rw [List.take_append_drop, ofDigits_toDigits, List.length_drop]
        have hplaces : -(((Nat.toDigits 10 s.digits).length -
            ((Nat.toDigits 10 s.digits).length - (-s.exponent).toNat) : Nat) : Int) = s.exponent := by omega
        rw [hplaces]
        rfl
    · rw [if_neg hinside, String.toList_ofList]
      refine @laysOut_point ['0'] _ s (by simp) (by simp) (fun c hc => ?_) ?_
      · rcases List.mem_append.mp hc with hc | hc
        · exact isDigit_of_mem_zeros hc
        · exact hdigits c hc
      · have hvalue : ofDigits (['0'] ++ (List.replicate ((-s.exponent).toNat - (Nat.toDigits 10 s.digits).length) '0' ++
            Nat.toDigits 10 s.digits)) = s.digits :=
          (ofDigits_zeros_append (_ + 1) _).trans (ofDigits_toDigits s.digits)
        rw [hvalue, List.length_append, List.length_replicate]
        have hplaces : -(((-s.exponent).toNat - (Nat.toDigits 10 s.digits).length +
            (Nat.toDigits 10 s.digits).length : Nat) : Int) = s.exponent := by omega
        rw [hplaces]
        rfl

/-! ## Comparisons of positive floats -/

open Float.Model in
theorem lt_iff_compare (x y : Float) :
    x < y ↔ UnpackedFloat.compare x.toModel.unpack y.toModel.unpack = some .lt := by
  show decide (UnpackedFloat.lt x.toModel.unpack y.toModel.unpack = true) = true ↔ _
  rw [decide_eq_true_iff, UnpackedFloat.lt, beq_iff_eq]

theorem not_lt_zero {x : Float} (hx : x.isFinite = true) (hsign : isNegative x = false) : ¬x < 0.0 := by
  have hzero : (0.0 : Float).toModel.unpack = .zero .positive := rfl
  rw [lt_iff_compare, hzero]
  rcases unpack_of_isFinite hx hsign with h | ⟨m, e, hm, h⟩
  · rw [h]
    decide
  · rw [h]
    exact fun heq => by cases heq

theorem not_infinity_lt {x : Float} (hx : x.isFinite = true) (hsign : isNegative x = false) : ¬1.0 / 0.0 < x := by
  have hinfinity : (1.0 / 0.0 : Float).toModel.unpack = .infinity .positive := rfl
  rw [lt_iff_compare, hinfinity]
  rcases unpack_of_isFinite hx hsign with h | ⟨m, e, hm, h⟩
  · rw [h]
    decide
  · rw [h]
    exact fun heq => by cases heq

/-! ## Displayed numbers -/

theorem takeSign_of_isDigit {c : Char} (h : c.isDigit = true) (cs : List Char) :
    Numeral.takeSign (c :: cs) = (false, c :: cs) := by
  unfold Numeral.takeSign
  split
  · rename_i heq
    obtain ⟨rfl, -⟩ := List.cons.inj heq
    exact absurd h (by decide)
  · rename_i heq
    obtain ⟨rfl, -⟩ := List.cons.inj heq
    exact absurd h (by decide)
  · rfl

def signChars (negative : Bool) : List Char :=
  if negative then ['-'] else []

theorem isPlain_of_mem_signChars {negative : Bool} : ∀ c ∈ signChars negative, IsPlain c := by
  cases negative <;> simp [signChars, IsPlain]

section

variable {cs : List Char} {s : Scaled} (h : LaysOut cs s) (negative : Bool)
include h

theorem LaysOut.takeSign_signChars : Numeral.takeSign (signChars negative ++ cs) = (negative, cs) := by
  cases negative with
  | true => rfl
  | false =>
    obtain ⟨c, hc, hdigit⟩ := h.starts
    obtain ⟨ds, rfl⟩ := List.head?_eq_some_iff.mp hc
    exact takeSign_of_isDigit hdigit ds

/-- A text that lays out a number is read as the float nearest to it, after a sign as well. -/
theorem LaysOut.read?_signed : read? (signChars negative ++ cs) = some (ofParts negative s.toWord) := by
  obtain ⟨n, hn, hnegative, hword⟩ := h.reads negative
  rw [read?, Numeral.ofChars?, h.takeSign_signChars]
  dsimp only
  rw [hn, Option.map_some, Numeral.toFloat, hnegative, hword]

theorem LaysOut.trimChars_signed : trimChars (signChars negative ++ cs) = signChars negative ++ cs := by
  refine trimChars_eq_self fun c hc => ?_
  rcases List.mem_append.mp hc with hc | hc
  · exact isWhiteSpace_of_isPlain (isPlain_of_mem_signChars c hc)
  · exact isWhiteSpace_of_isPlain (h.plain c hc)

end

/-- A positive finite float is displayed without an exponent. -/
theorem positive_displayed {x : Float} (hx : x.isFinite = true) (hsign : isNegative x = false) :
    displayed.positive x = Layout.positional "" (shortest (magnitude x)) := by
  have hrange : ¬(x < displayed.least || displayed.greatest < x) = true := by
    rw [Bool.or_eq_true, decide_eq_true_iff, decide_eq_true_iff]
    rintro (hlt | hlt)
    · exact not_lt_zero hx hsign hlt
    · exact not_infinity_lt hx hsign hlt
  unfold Layout.positive
  dsimp only
  rw [if_neg hrange]
  rfl

theorem exists_laysOut_displayed {x : Float} (hx : x.isFinite = true) :
    ∃ cs s, (displayed.text x).toList = signChars (isNegative x) ++ cs ∧ LaysOut cs s ∧ s.toWord = magnitude x := by
  have hsign : (if isNegative x then "-" else "").toList = signChars (isNegative x) := by
    cases isNegative x <;> rfl
  unfold Layout.text
  rw [isNaN_of_isFinite hx, isInf_of_isFinite hx, if_neg Bool.false_ne_true, if_neg Bool.false_ne_true]
  dsimp only
  by_cases hzero : magnitude x = 0
  · refine ⟨['0'], ⟨0, 0⟩, ?_, laysOut_whole (by simp) (by simp) rfl, ?_⟩
    · rw [if_pos hzero, ← hsign]
      simp [displayed]
    · rw [hzero]
      rfl
  · have hword := (isFinite_iff x).mp hx
    have hfinite := isFinite_ofParts hword false
    have hpositive := isNegative_ofParts (Nat.le_of_lt hword) false
    have hmagnitude := magnitude_ofParts (Nat.le_of_lt hword) false
    refine ⟨_, _, ?_, laysOut_positional _, toWord_shortest hword hzero⟩
    rw [if_neg hzero, String.toList_append, hsign, positive_displayed hfinite hpositive, hmagnitude]

/-- The displayed text of a finite float is read as that float. -/
theorem read?_displayed {x : Float} (hx : x.isFinite = true) :
    read? (trimChars (displayed.text x).toList) = some x := by
  obtain ⟨cs, s, htext, hcs, hword⟩ := exists_laysOut_displayed hx
  rw [htext, hcs.trimChars_signed, hcs.read?_signed, hword, ofParts_magnitude]

end Worksheet.Decimal

namespace Worksheet.CellValue

theorem ofRaw_display_number {x : Float} (hx : x.isFinite = true) : ofRaw (number x).display = .number x := by
  rw [ofRaw, display, Decimal.read?_displayed hx]
  exact if_pos hx

end Worksheet.CellValue
