import Worksheet.Proofs.Decimal.Words

/-!
# The nearest float

* `roundHalfEven_mul_right`, `nearest_mul_right` : only the value of a fraction counts;
* `nearest_eq_of_units` : a fraction that is a float is nearest to that float;
* `nearest_lt_infinityWord` : numbers that are not huge are nearest to finite floats;
* `isFinite_ofInt` : so are integers.
-/

namespace Worksheet.Decimal

theorem unitsPerOne_pos : 0 < unitsPerOne := by
  unfold unitsPerOne
  exact Nat.two_pow_pos 1074

/-! ## Rounding -/

theorem roundHalfEven_mul_right (num den : Nat) {c : Nat} (hc : 0 < c) :
    roundHalfEven (num * c) (den * c) = roundHalfEven num den := by
  unfold roundHalfEven
  dsimp only
  rw [Nat.mul_div_mul_right _ _ hc, Nat.mul_mod_mul_right, ← Nat.mul_assoc]
  have hlt : 2 * (num % den) * c < den * c ↔ 2 * (num % den) < den := Nat.mul_lt_mul_right hc
  have heq : 2 * (num % den) * c = den * c ↔ 2 * (num % den) = den := Nat.mul_left_inj (by omega)
  simp only [hlt, heq]

theorem roundHalfEven_mul_self (n : Nat) {den : Nat} (hden : 0 < den) : roundHalfEven (n * den) den = n := by
  unfold roundHalfEven
  dsimp only
  rw [Nat.mul_div_cancel _ hden, Nat.mul_mod_left, Nat.mul_zero, if_pos hden]

theorem roundHalfEven_le (num den : Nat) : roundHalfEven num den ≤ num / den + 1 := by
  unfold roundHalfEven
  dsimp only
  split
  · omega
  · split <;> omega

/-! ## The word of a fraction -/

theorem nearest_mul_right (num den : Nat) {c : Nat} (hc : 0 < c) : nearest (num * c) (den * c) = nearest num den := by
  unfold nearest
  dsimp only
  rw [Nat.mul_right_comm num c, Nat.mul_div_mul_right _ _ hc, Nat.mul_right_comm den c,
    roundHalfEven_mul_right _ _ hc]

theorem lt_two_pow_excessBits (n : Nat) : n < 2 ^ (53 + excessBits n) := by
  unfold excessBits
  calc
    n < 2 ^ (n.log2 + 1) := Nat.lt_log2_self
    _ ≤ 2 ^ (53 + (n.log2 + 1 - 53)) := Nat.pow_le_pow_right (by decide) (by omega)

theorem excessBits_le {n bits : Nat} (h : n < 2 ^ bits) : excessBits n ≤ bits - 53 := by
  unfold excessBits
  by_cases hzero : n = 0
  · subst hzero
    rw [Nat.log2_zero]
    omega
  · have hlog := (Nat.log2_lt hzero).mpr h
    omega

theorem roundHalfEven_excess_le (scaled den : Nat) :
    roundHalfEven scaled (den * 2 ^ excessBits (scaled / den)) ≤ 2 * hiddenBit := by
  refine Nat.le_trans (roundHalfEven_le _ _) ?_
  rw [← Nat.div_div_eq_div_mul, Nat.succ_le_iff, Nat.div_lt_iff_lt_mul (Nat.two_pow_pos _)]
  calc
    scaled / den < 2 ^ (53 + excessBits (scaled / den)) := lt_two_pow_excessBits _
    _ = 2 * hiddenBit * 2 ^ excessBits (scaled / den) := Nat.pow_add 2 53 _

theorem nearest_lt_infinityWord {num den k : Nat} (hden : 0 < den) (h : num < 2 ^ k * den) (hk : k ≤ 1000) :
    nearest num den < infinityWord := by
  have hquotient : num * unitsPerOne / den < 2 ^ (k + 1074) := by
    rw [Nat.div_lt_iff_lt_mul hden, Nat.pow_add, ← unitsPerOne, Nat.mul_right_comm]
    exact Nat.mul_lt_mul_of_pos_right h unitsPerOne_pos
  have hexcess := excessBits_le hquotient
  have hround := roundHalfEven_excess_le (num * unitsPerOne) den
  have hsum : excessBits (num * unitsPerOne / den) * hiddenBit ≤ 2021 * hiddenBit :=
    Nat.mul_le_mul_right _ (by omega)
  unfold nearest
  dsimp only
  refine Nat.lt_of_le_of_lt (Nat.min_le_right _ _) ?_
  unfold infinityWord
  unfold hiddenBit at hsum hround ⊢
  omega

theorem log2_mul_two_pow {m : Nat} (hle : 2 ^ 52 ≤ m) (hlt : m < 2 ^ 53) (k : Nat) :
    (m * 2 ^ k).log2 = 52 + k := by
  have hpos : 0 < 2 ^ k := Nat.pow_pos (by decide)
  rw [Nat.log2_eq_iff (by rw [Nat.mul_ne_zero_iff]; omega)]
  constructor
  · rw [Nat.pow_add]
    exact Nat.mul_le_mul_right _ hle
  · rw [show 52 + k + 1 = 53 + k by omega, Nat.pow_add]
    exact Nat.mul_lt_mul_of_pos_right hlt hpos

/-- A fraction whose value is that of a float is nearest to that float. -/
theorem nearest_eq_of_units {num den word : Nat} (hden : 0 < den) (hword : word < infinityWord)
    (h : num * unitsPerOne = units word * den) : nearest num den = word := by
  have hmod : word % hiddenBit < hiddenBit := Nat.mod_lt _ hiddenBit_pos
  have hparts : word / hiddenBit * hiddenBit + word % hiddenBit = word := by
    rw [Nat.mul_comm]
    exact Nat.div_add_mod word hiddenBit
  unfold nearest
  dsimp only
  rw [h, Nat.mul_div_cancel _ hden, Nat.mul_comm den, roundHalfEven_mul_right _ _ hden]
  unfold units
  by_cases hsubnormal : word / hiddenBit = 0
  · rw [if_pos hsubnormal]
    have hexcess : excessBits word = 0 := by
      have hlt : word < 2 ^ 52 := by
        unfold hiddenBit at hsubnormal
        omega
      exact Nat.le_zero.mp (excessBits_le hlt)
    have hround : roundHalfEven word 1 = word := by
      have hself : roundHalfEven (word * 1) 1 = word := roundHalfEven_mul_self word Nat.one_pos
      rwa [Nat.mul_one] at hself
    rw [hexcess, Nat.pow_zero, hround, Nat.zero_mul, Nat.zero_add, Nat.min_eq_right (Nat.le_of_lt hword)]
  · rw [if_neg hsubnormal]
    have hexcess : excessBits ((hiddenBit + word % hiddenBit) * 2 ^ (word / hiddenBit - 1)) =
        word / hiddenBit - 1 := by
      have hle : 2 ^ 52 ≤ hiddenBit + word % hiddenBit := Nat.le_add_right _ _
      have hlt : hiddenBit + word % hiddenBit < 2 ^ 53 := by
        unfold hiddenBit at hmod ⊢
        omega
      rw [excessBits, log2_mul_two_pow hle hlt]
      omega
    rw [hexcess, roundHalfEven_mul_self _ (Nat.pow_pos (by decide))]
    have hsum : (word / hiddenBit - 1) * hiddenBit + (hiddenBit + word % hiddenBit) = word := by
      rw [Nat.sub_mul, Nat.one_mul]
      have : hiddenBit ≤ word / hiddenBit * hiddenBit := Nat.le_mul_of_pos_left _ (Nat.pos_of_ne_zero hsubnormal)
      omega
    rw [hsum, Nat.min_eq_right (Nat.le_of_lt hword)]

/-! ## Integers -/

theorem isFinite_ofInt {n : Int} {k : Nat} (hn : n.natAbs < 2 ^ k) (hk : k ≤ 1000) : (ofInt n).isFinite = true :=
  isFinite_ofParts (nearest_lt_infinityWord (by decide) (by rwa [Nat.mul_one]) hk) _

end Worksheet.Decimal
