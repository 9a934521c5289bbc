import Worksheet.Proofs.Decimal.ReadBack
import Worksheet.Proofs.Decimal.Rounding

/-!
# Whole numbers are displayed with all their digits

Whole numbers below `2 ^ 53` are floats, so no other whole number near one of them is read as that float. The
fewest digits of a whole number of at most fifteen digits are its own.

* `units_nearest_whole` : whole numbers are not rounded;
* `Scaled.IsWhole`, `isWhole_shortest` : the fewest digits of a whole number stand for just that number;
* `displayed_whole` : so it is displayed as its digits after the sign.
-/

namespace Worksheet.Decimal

/-! ## Whole numbers are floats -/

theorem nearest_eq_rounded {num den k : Nat} (hden : 0 < den) (h : num < 2 ^ k * den) (hk : k ≤ 1000) :
    nearest num den = rounded (num * unitsPerOne) den := by
  have hlt := nearest_lt_infinityWord hden h hk
  rw [nearest_eq_min] at hlt ⊢
  omega

theorem units_nearest_whole {n : Nat} (hn : n < 2 ^ 53) : units (nearest n 1) = n * unitsPerOne := by
  have hexcess : excessBits (n * unitsPerOne / 1) ≤ 1074 := by
    have hlt : n * unitsPerOne / 1 < 2 ^ (53 + 1074) := by
      rw [Nat.div_one, Nat.pow_add, ← unitsPerOne]
      exact Nat.mul_lt_mul_of_pos_right hn unitsPerOne_pos
    exact excessBits_le hlt
  rw [nearest_eq_rounded Nat.one_pos (by rwa [Nat.mul_one]) (by decide), units_rounded]
  generalize excessBits (n * unitsPerOne / 1) = e at hexcess ⊢
  have hsplit : n * unitsPerOne = n * 2 ^ (1074 - e) * (1 * 2 ^ e) := by
    rw [Nat.one_mul, Nat.mul_assoc, ← Nat.pow_add, Nat.sub_add_cancel hexcess, ← unitsPerOne]
  rw [hsplit, roundHalfEven_mul_self _ (by positivity), Nat.one_mul]

/-! ## The digits of a whole number -/

theorem Numeral.width_mul_pow {n : Nat} (hn : n ≠ 0) (k : Nat) : width (n * 10 ^ k) = width n + k := by
  induction k with
  | zero => rw [Nat.pow_zero, Nat.mul_one, Nat.add_zero]
  | succ k ih =>
    have hpow : n * 10 ^ k ≠ 0 := Nat.mul_ne_zero hn (by positivity)
    rw [Nat.pow_succ, ← Nat.mul_assoc, width_mul_ten hpow, ih, Nat.add_assoc]

theorem toDigits_mul_pow {n : Nat} (hn : n ≠ 0) (k : Nat) :
    Nat.toDigits 10 (n * 10 ^ k) = Nat.toDigits 10 n ++ List.replicate k '0' := by
  induction k with
  | zero => rw [Nat.pow_zero, Nat.mul_one, List.replicate_zero, List.append_nil]
  | succ k ih =>
    have hpos : 0 < n * 10 ^ k := Nat.mul_pos (Nat.pos_of_ne_zero hn) (by positivity)
    have hlast := Nat.toDigits_append_toDigits (b := 10) (d := 0) (by decide) hpos (by decide)
    rw [Nat.pow_succ, ← Nat.mul_assoc, Nat.mul_comm _ 10, ← Nat.add_zero (10 * _), ← hlast, ih, List.append_assoc,
      List.replicate_succ']
    rfl

namespace Scaled

def IsWhole (s : Scaled) (n : Nat) : Prop :=
  ∃ k : Nat, s.exponent = k ∧ s.digits * 10 ^ k = n

variable {s : Scaled} {n : Nat}

theorem units_toWord (h : s.IsWhole n) (hn : n < 2 ^ 53) : units s.toWord = n * unitsPerOne := by
  obtain ⟨k, hk, hdigits⟩ := h
  have hword : s.toWord = Numeral.toWord ⟨false, n, 0⟩ := by
    rw [toWord, hk, ← hdigits, Numeral.toWord_mul_pow false false, Int.zero_add]
  rw [hword]
  by_cases hzero : n = 0
  · rw [Numeral.toWord_of_digits_zero hzero, hzero, Nat.zero_mul]
    exact units_eq_zero_iff.mpr rfl
  · have hwidth : Numeral.width n ≤ 16 := (Numeral.width_le_iff n 16).mpr (by omega)
    rw [Numeral.toWord_eq_nearest (n := ⟨false, n, 0⟩) hzero (by dsimp only; omega) (by dsimp only; omega)]
    show units (nearest (n * 10 ^ 0) (10 ^ 0)) = _
    rw [Nat.pow_zero, Nat.mul_one, units_nearest_whole hn]

theorem IsWhole.trimZeros (fuel : Nat) (h : s.IsWhole n) : (s.trimZeros fuel).IsWhole n := by
  induction fuel generalizing s with
  | zero => exact h
  | succ fuel ih =>
    unfold Scaled.trimZeros
    split
    · rename_i hlast
      obtain ⟨k, hk, hdigits⟩ := h
      refine ih ⟨k + 1, by rw [hk]; rfl, ?_⟩
      rw [Nat.pow_succ', ← Nat.mul_assoc, Nat.div_mul_cancel (Nat.dvd_of_mod_eq_zero hlast.1), hdigits]
    · exact h

theorem IsWhole.positional (h : s.IsWhole n) (hn : n ≠ 0) : Layout.positional "" s = toString n := by
  obtain ⟨k, hk, hdigits⟩ := h
  have hne : s.digits ≠ 0 := by
    rintro hzero
    rw [hzero, Nat.zero_mul] at hdigits
    exact hn hdigits.symm
  unfold Layout.positional
  dsimp only
  rw [hk, if_pos (Int.natCast_nonneg k), Int.toNat_natCast, ← toDigits_mul_pow hne, hdigits, String.append_empty,
    Nat.toString_eq_ofList_toDigits]

end Scaled

/-! ## The fewest digits of a whole number -/

theorem topPlace_whole {n : Nat} (hn : n ≠ 0) : topPlace (n * unitsPerOne) = Numeral.width n := by
  have hplaces (k : Nat) : Numeral.width (n * unitsPerOne * 10 ^ k / unitsPerOne) = Numeral.width n + k := by
    rw [Nat.mul_right_comm, Nat.mul_div_cancel _ unitsPerOne_pos, Numeral.width_mul_pow hn]
  simp only [topPlace, hplaces]
  omega

theorem gridFraction_whole (n k : Nat) :
    gridFraction (n * unitsPerOne) k = (n * unitsPerOne, unitsPerOne * 10 ^ k) := by
  rw [gridFraction, if_pos (Int.natCast_nonneg k), Int.toNat_natCast]

/-- The neighbours of a whole number are whole numbers not much greater. -/
theorem exists_isWhole_of_mem_neighbours {n k : Nat} {s : Scaled} (h : s ∈ neighbours (n * unitsPerOne) k) :
    ∃ m ≤ n + 10 ^ k, s.IsWhole m := by
  have hfloor : n * unitsPerOne / (unitsPerOne * 10 ^ k) * 10 ^ k ≤ n := by
    rw [← Nat.div_div_eq_div_mul, Nat.mul_div_cancel _ unitsPerOne_pos]
    exact Nat.div_mul_le_self n (10 ^ k)
  have hcases : s = ⟨n * unitsPerOne / (unitsPerOne * 10 ^ k), k⟩ ∨
      s = ⟨n * unitsPerOne / (unitsPerOne * 10 ^ k) + 1, k⟩ := by
    rw [neighbours, gridFraction_whole] at h
    dsimp only at h
    split at h
    · simpa using h
    · simpa [or_comm] using h
  rcases hcases with rfl | rfl
  · exact ⟨_, Nat.le_trans hfloor (Nat.le_add_right _ _), k, rfl, rfl⟩
  · refine ⟨_, ?_, k, rfl, rfl⟩
    dsimp only
    rw [Nat.add_mul, Nat.one_mul]
    omega

theorem exists_isWhole_neighbour (n : Nat) : ∃ s ∈ neighbours (n * unitsPerOne) (0 : Nat), s.IsWhole n := by
  refine ⟨⟨n, (0 : Nat)⟩, ?_, 0, rfl, by rw [Nat.pow_zero, Nat.mul_one]⟩
  rw [neighbours, gridFraction_whole, Nat.pow_zero, Nat.mul_one]
  dsimp only
  rw [Nat.mul_div_cancel _ unitsPerOne_pos, Nat.mul_mod_left, Nat.mul_zero, if_pos unitsPerOne_pos]
  exact List.mem_cons_self

section

variable {n : Nat} (hpos : n ≠ 0) (hn : n < 10 ^ 15)
include hpos hn

theorem exists_prefix_candidates :
    ∃ l, l <+: candidates (n * unitsPerOne) ∧ (∀ s ∈ l, ∃ m < 2 ^ 53, s.IsWhole m) ∧ ∃ s ∈ l, s.IsWhole n := by
  obtain ⟨width, hwidth⟩ : ∃ k, Numeral.width n = k := ⟨_, rfl⟩
  have hle : width ≤ 15 := by rwa [← hwidth, Numeral.width_le_iff]
  have hpositive : 0 < width := by
    refine Nat.pos_of_ne_zero fun hzero => hpos ?_
    have hlt := (Numeral.width_le_iff n 0).mp (by omega)
    omega
  have hsplit : List.range 17 = List.range width ++ (List.range (17 - width)).map (width + ·) := by
    rw [← List.range_add, show width + (17 - width) = 17 by omega]
  have hplace (i : Nat) (hi : i < width) : (width : Int) - (i + 1 : Nat) = (width - (i + 1) : Nat) := by omega
  refine ⟨(List.range width).flatMap fun i => neighbours (n * unitsPerOne) (width - (i + 1 : Nat)), ?_,
    fun s hs => ?_, ?_⟩
  · rw [candidates, topPlace_whole hpos, hwidth, hsplit, List.flatMap_append]
    exact List.prefix_append _ _
  · obtain ⟨i, hi, hs⟩ := List.mem_flatMap.mp hs
    rw [hplace i (List.mem_range.mp hi)] at hs
    obtain ⟨m, hm, hwhole⟩ := exists_isWhole_of_mem_neighbours hs
    have hpower : 10 ^ (width - (i + 1)) ≤ 10 ^ 14 := Nat.pow_le_pow_right (by decide) (by omega)
    exact ⟨m, by omega, hwhole⟩
  · obtain ⟨s, hs, hwhole⟩ := exists_isWhole_neighbour n
    refine ⟨s, List.mem_flatMap.mpr ⟨width - 1, List.mem_range.mpr (by omega), ?_⟩, hwhole⟩
    rwa [hplace _ (by omega), show width - (width - 1 + 1) = 0 by omega]

variable {word : Nat} (hword : units word = n * unitsPerOne)
include hword

theorem exists_find_candidates :
    ∃ s, (candidates (units word)).find? (fun s => decide (s.toWord = word)) = some s ∧ s.IsWhole n := by
  obtain ⟨l, ⟨rest, heq⟩, hwhole, t, ht, htwhole⟩ := exists_prefix_candidates hpos hn
  have hreads : t.toWord = word := by
    apply strictMono_units.injective
    rw [Scaled.units_toWord htwhole (by omega), hword]
  have hsome : (l.find? fun s => decide (s.toWord = word)).isSome = true :=
    List.find?_isSome.mpr ⟨t, ht, decide_eq_true hreads⟩
  obtain ⟨s, hs⟩ := Option.isSome_iff_exists.mp hsome
  refine ⟨s, by rw [hword, ← heq, List.find?_append, hs, Option.some_or], ?_⟩
  have hread : s.toWord = word := by simpa using List.find?_some hs
  obtain ⟨m, hm, hsm⟩ := hwhole s (List.mem_of_find?_eq_some hs)
  have hunits := Scaled.units_toWord hsm hm
  rw [hread, hword] at hunits
  rwa [Nat.eq_of_mul_eq_mul_right unitsPerOne_pos hunits]

theorem isWhole_shortest : (shortest word).IsWhole n := by
  obtain ⟨s, hs, hwhole⟩ := exists_find_candidates hpos hn hword
  unfold shortest
  dsimp only
  rw [hs]
  exact hwhole.trimZeros _

end

/-- Whole numbers below `10 ^ 15` are displayed with all their digits. -/
theorem displayed_whole {x : Float} (hx : x.isFinite = true) {n : Nat} (hn : n < 10 ^ 15)
    (hunits : units (magnitude x) = n * unitsPerOne) :
    displayed.text x = (if isNegative x then "-" else "") ++ toString n := by
  have hword := (isFinite_iff x).mp hx
  unfold Layout.text
  rw [isNaN_of_isFinite hx, isInf_of_isFinite hx, if_neg Bool.false_ne_true, if_neg Bool.false_ne_true]
  dsimp only
  by_cases hzero : magnitude x = 0
  · obtain rfl : n = 0 := by
      rw [units_eq_zero_iff.mpr hzero] at hunits
      exact (Nat.mul_eq_zero.mp hunits.symm).resolve_right unitsPerOne_pos.ne'
    rw [if_pos hzero]
    exact String.append_empty
  · have hpos : n ≠ 0 := by
      rintro rfl
      rw [Nat.zero_mul] at hunits
      exact hzero (units_eq_zero_iff.mp hunits)
    rw [if_neg hzero, positive_displayed (isFinite_ofParts hword false) (isNegative_ofParts (Nat.le_of_lt hword) false),
      magnitude_ofParts (Nat.le_of_lt hword), (isWhole_shortest hpos hn hunits).positional hpos]

end Worksheet.Decimal
