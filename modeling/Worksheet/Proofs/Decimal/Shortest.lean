import Worksheet.Decimal.Shortest
import Worksheet.Proofs.Decimal.Nearest

/-!
# The fewest digits read back

* `width_le_iff`, `width_mul_ten` : the number of decimal digits;
* `toWord_mul_pow` : a zero at the end of the digits counts as one in the exponent;
* `toWord_normal` : dropping zeros from the end of the digits does not change the nearest float;
* `toWord_expansion` : every digit of a float reads back;
* `toWord_shortest` : so do the fewest.
-/

namespace Worksheet.Decimal

/-! ## The number of digits -/

namespace Numeral

theorem width_le_iff (n k : Nat) : width n ≤ k ↔ n < 10 ^ k := by
  unfold width
  by_cases hn : n = 0
  · subst hn
    rw [if_pos rfl]
    exact ⟨fun _ => Nat.pow_pos (by decide), fun _ => Nat.zero_le k⟩
  · rw [if_neg hn]
    cases k with
    | zero =>
      have hpos : 0 < (Nat.toDigits 10 n).length := Nat.length_toDigits_pos
      rw [Nat.pow_zero]
      omega
    | succ k => exact Nat.length_toDigits_le_iff (by decide) (Nat.succ_pos k)

theorem width_mul_ten {n : Nat} (hn : n ≠ 0) : width (n * 10) = width n + 1 := by
  apply Nat.le_antisymm
  · rw [width_le_iff, Nat.pow_succ]
    exact Nat.mul_lt_mul_of_pos_right ((width_le_iff n (width n)).mp (Nat.le_refl _)) (by decide)
  · have hlt : n * 10 < 10 ^ width (n * 10) := (width_le_iff _ _).mp (Nat.le_refl _)
    cases hwidth : width (n * 10) with
    | zero =>
      rw [hwidth, Nat.pow_zero] at hlt
      omega
    | succ k =>
      rw [hwidth, Nat.pow_succ] at hlt
      have hle : width n ≤ k := (width_le_iff n k).mpr (Nat.lt_of_mul_lt_mul_right hlt)
      omega

/-! ## The exponent -/

theorem toWord_of_digits_zero {n : Numeral} (h : n.digits = 0) : n.toWord = 0 := by
  unfold toWord
  dsimp only
  rw [if_pos (.inl h)]

theorem toWord_of_low {n : Numeral} (h : (width n.digits : Int) + n.exponent < -330) : n.toWord = 0 := by
  unfold toWord
  dsimp only
  rw [if_pos (.inr h)]

theorem toWord_of_high {n : Numeral} (hdigits : n.digits ≠ 0) (h : 310 < (width n.digits : Int) + n.exponent) :
    n.toWord = infinityWord := by
  unfold toWord
  dsimp only
  rw [if_neg (by omega), if_pos h]

theorem toWord_eq_nearest {n : Numeral} (hdigits : n.digits ≠ 0) (hlow : -330 ≤ (width n.digits : Int) + n.exponent)
    (hhigh : (width n.digits : Int) + n.exponent ≤ 310) :
    n.toWord = nearest (n.digits * 10 ^ n.exponent.toNat) (10 ^ (-n.exponent).toNat) := by
  unfold toWord
  dsimp only
  rw [if_neg (by omega), if_neg (by omega)]
  by_cases hexponent : 0 ≤ n.exponent
  · rw [if_pos hexponent, show (-n.exponent).toNat = 0 by omega, Nat.pow_zero]
  · rw [if_neg hexponent, show n.exponent.toNat = 0 by omega, Nat.pow_zero, Nat.mul_one]

theorem toWord_mul_ten (b c : Bool) (d : Nat) (e : Int) : toWord ⟨b, d * 10, e⟩ = toWord ⟨c, d, e + 1⟩ := by
  by_cases hd : d = 0
  · subst hd
    rw [Nat.zero_mul, toWord_of_digits_zero rfl, toWord_of_digits_zero rfl]
  · have htop : (width (d * 10) : Int) + e = width d + (e + 1) := by
      rw [width_mul_ten hd]
      omega
    by_cases hlow : -330 ≤ (width d : Int) + (e + 1)
    · by_cases hhigh : (width d : Int) + (e + 1) ≤ 310
      · have hd10 : d * 10 ≠ 0 := by omega
        rw [toWord_eq_nearest hd10 (by rwa [htop]) (by rwa [htop]), toWord_eq_nearest hd hlow hhigh]
        dsimp only
        by_cases he : 0 ≤ e
        · rw [show (e + 1).toNat = e.toNat + 1 by omega, show (-e).toNat = (-(e + 1)).toNat by omega, Nat.pow_succ,
            Nat.mul_assoc, Nat.mul_comm 10]
        · rw [show e.toNat = (e + 1).toNat by omega, show (-e).toNat = (-(e + 1)).toNat + 1 by omega, Nat.pow_succ,
            Nat.mul_right_comm]
          exact nearest_mul_right _ _ (by decide)
      · rw [toWord_of_high (n := ⟨b, d * 10, e⟩) (by dsimp only; omega) (by dsimp only; omega),
          toWord_of_high hd (by dsimp only; omega)]
    · rw [toWord_of_low (by dsimp only; omega), toWord_of_low (by dsimp only; omega)]

theorem toWord_mul_pow (b c : Bool) (d k : Nat) (e : Int) : toWord ⟨b, d * 10 ^ k, e⟩ = toWord ⟨c, d, e + k⟩ := by
  induction k generalizing b e with
  | zero =>
    rw [Nat.pow_zero, Nat.mul_one, show e + (0 : Nat) = e by omega]
    rfl
  | succ k ih =>
    rw [Nat.pow_succ, ← Nat.mul_assoc, toWord_mul_ten b c, ih, show e + 1 + (k : Int) = e + (k + 1 : Nat) by omega]

end Numeral

namespace Scaled

theorem toWord_trimZeros (fuel : Nat) (s : Scaled) : (s.trimZeros fuel).toWord = s.toWord := by
  induction fuel generalizing s with
  | zero => rfl
  | succ fuel ih =>
    unfold trimZeros
    split
    · rename_i h
      have hdigits : s.digits / 10 * 10 = s.digits := Nat.div_mul_cancel (Nat.dvd_of_mod_eq_zero h.1)
      rw [ih, toWord, ← Numeral.toWord_mul_ten false, hdigits]
      rfl
    · rfl

theorem toWord_normal (s : Scaled) : s.normal.toWord = s.toWord :=
  toWord_trimZeros _ s

end Scaled

/-! ## Every digit of a float -/

theorem two_pow_le_ten_pow (k : Nat) : 2 ^ (93 * k) ≤ 10 ^ (28 * k) := by
  rw [Nat.pow_mul, Nat.pow_mul]
  exact Nat.pow_le_pow_left (by decide) k

theorem ten_pow_le_five_pow (k : Nat) : 10 ^ (16 * k) ≤ 5 ^ (23 * k) := by
  rw [Nat.pow_mul, Nat.pow_mul]
  exact Nat.pow_le_pow_left (by decide) k

theorem units_lt {word k : Nat} (hword : word < infinityWord) (hk : 2098 ≤ k) : units word < 2 ^ k := by
  have hmod : word % hiddenBit < hiddenBit := Nat.mod_lt _ hiddenBit_pos
  have hexponent : word / hiddenBit < 2047 := Nat.div_lt_of_lt_mul (by rwa [Nat.mul_comm])
  have hbit : hiddenBit = 2 ^ 52 := rfl
  unfold units
  by_cases hsubnormal : word / hiddenBit = 0
  · rw [if_pos hsubnormal]
    calc
      word < 2 ^ 52 := (Nat.div_eq_zero_iff_lt hiddenBit_pos).mp hsubnormal
      _ ≤ 2 ^ k := Nat.pow_le_pow_right (by decide) (by omega)
  · rw [if_neg hsubnormal]
    calc
      (hiddenBit + word % hiddenBit) * 2 ^ (word / hiddenBit - 1) < 2 ^ 53 * 2 ^ (word / hiddenBit - 1) :=
        Nat.mul_lt_mul_of_pos_right (by omega) (Nat.pow_pos (by decide))
      _ = 2 ^ (53 + (word / hiddenBit - 1)) := (Nat.pow_add _ _ _).symm
      _ ≤ 2 ^ k := Nat.pow_le_pow_right (by decide) (by omega)

/-- The full expansion of a float reads back: its highest digit stands within the bounds of numerals. -/
theorem toWord_expansion {word : Nat} (hword : word < infinityWord) (hpos : word ≠ 0) :
    (expansion (units word)).toWord = word := by
  have hunits : units word ≠ 0 := fun h => hpos (units_eq_zero_iff.mp h)
  have hfive : ∀ k, 0 < 5 ^ k := fun k => Nat.pow_pos (by decide)
  have hdigits : units word * 5 ^ 1074 ≠ 0 := Nat.mul_ne_zero hunits (Nat.pos_iff_ne_zero.mp (hfive 1074))
  have hhigh : Numeral.width (units word * 5 ^ 1074) ≤ 309 + 1074 := by
    rw [Numeral.width_le_iff]
    calc
      units word * 5 ^ 1074 < 2 ^ (93 * 11 + 1 + 1074) * 5 ^ 1074 :=
        Nat.mul_lt_mul_of_pos_right (units_lt hword (by decide)) (hfive 1074)
      _ = 2 ^ (93 * 11) * 2 * 10 ^ 1074 := by
        rw [Nat.pow_add, Nat.pow_succ, Nat.mul_assoc, ← Nat.mul_pow]
      _ ≤ 10 ^ (28 * 11) * 10 * 10 ^ 1074 :=
        Nat.mul_le_mul_right _ (Nat.mul_le_mul (two_pow_le_ten_pow 11) (by decide))
      _ = 10 ^ (309 + 1074) := by rw [← Nat.pow_succ, ← Nat.pow_add]
  have hlow : 747 < Numeral.width (units word * 5 ^ 1074) := by
    rw [← Nat.not_le, Numeral.width_le_iff, Nat.not_lt]
    calc
      10 ^ (16 * 46 + 11) = 10 ^ (16 * 46) * 10 ^ 11 := Nat.pow_add 10 (16 * 46) 11
      _ ≤ 5 ^ (23 * 46) * 5 ^ 16 := Nat.mul_le_mul (ten_pow_le_five_pow 46) (by decide)
      _ = 5 ^ 1074 := by rw [← pow_add]
      _ ≤ units word * 5 ^ 1074 := Nat.le_mul_of_pos_left _ (Nat.pos_of_ne_zero hunits)
  have hbelow : -330 ≤ (Numeral.width (units word * 5 ^ 1074) : Int) + -1074 := by
    generalize Numeral.width (units word * 5 ^ 1074) = width at hlow
    omega
  have habove : (Numeral.width (units word * 5 ^ 1074) : Int) + -1074 ≤ 310 := by
    generalize Numeral.width (units word * 5 ^ 1074) = width at hhigh
    omega
  show Numeral.toWord ⟨false, units word * 5 ^ 1074, -1074⟩ = word
  rw [Numeral.toWord_eq_nearest (n := ⟨false, units word * 5 ^ 1074, -1074⟩) hdigits hbelow habove]
  apply nearest_eq_of_units (Nat.pow_pos (by decide)) hword
  show units word * 5 ^ 1074 * 10 ^ 0 * 2 ^ 1074 = units word * 10 ^ 1074
  rw [Nat.pow_zero, Nat.mul_one, Nat.mul_assoc, ← Nat.mul_pow]

/-- The fewest digits read back. -/
theorem toWord_shortest {word : Nat} (hword : word < infinityWord) (hpos : word ≠ 0) :
    (shortest word).toWord = word := by
  unfold shortest
  dsimp only
  rw [Scaled.toWord_normal]
  cases hfind : (candidates (units word)).find? fun s => s.toWord = word with
  | none => exact toWord_expansion hword hpos
  | some s =>
    have hreads := List.find?_some hfind
    exact of_decide_eq_true hreads

end Worksheet.Decimal
