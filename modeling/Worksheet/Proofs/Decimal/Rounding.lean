import Mathlib.Algebra.Order.Field.Power
import Mathlib.Data.Nat.Cast.Order.Field
import Mathlib.Data.Rat.Cast.Order
import Mathlib.Order.Monotone.Basic
import Mathlib.Tactic.FieldSimp
import Mathlib.Tactic.Linarith
import Mathlib.Tactic.Ring
import Worksheet.Proofs.Decimal.Shortest

/-!
# Numerals are rounded correctly

A fraction is rounded in steps of a power of two that its size determines. That this finds the nearest of
all floats follows from the two numbers half-way to the words next to it.

* `units_grid`, `strictMono_units` : the units of the words in such steps; greater words have more units;
* `wordValue_magnitude` : the word of a float stands for what the float's significand and exponent do;
* `IsNearest`, `IsNearest.unique` : the word nearest to a number, of two the even one;
* `isNearest_of_midpoints` : a word is nearest to the numbers between its midpoints;
* `isNearest_nearest` : `nearest` finds the nearest word;
* `Numeral.isNearest_toWord` : and so a numeral is read.
-/

namespace Worksheet.Decimal

/-! ## Steps between words -/

theorem units_normal (e : Nat) {m : Nat} (hm : m < hiddenBit) :
    units ((e + 1) * hiddenBit + m) = (hiddenBit + m) * 2 ^ e := by
  have hdiv : ((e + 1) * hiddenBit + m) / hiddenBit = e + 1 := by
    rw [Nat.add_comm, Nat.add_mul_div_right _ _ hiddenBit_pos, Nat.div_eq_of_lt hm, Nat.zero_add]
  have hmod : ((e + 1) * hiddenBit + m) % hiddenBit = m := by
    rw [Nat.mul_comm, Nat.mul_add_mod, Nat.mod_eq_of_lt hm]
  rw [units, hdiv, hmod, if_neg (Nat.succ_ne_zero e), Nat.add_sub_cancel]

/-- The words `e * hiddenBit + r` stand for `r` steps of `2 ^ e` units. -/
theorem units_grid {e r : Nat} (hr : r ≤ 2 * hiddenBit) (he : e = 0 ∨ hiddenBit ≤ r) :
    units (e * hiddenBit + r) = r * 2 ^ e := by
  by_cases hsubnormal : r < hiddenBit
  · have hzero : e = 0 := by omega
    rw [hzero, Nat.zero_mul, Nat.zero_add, units_of_lt hsubnormal, Nat.pow_zero, Nat.mul_one]
  · by_cases hlast : r = 2 * hiddenBit
    · have hword : e * hiddenBit + r = (e + 1 + 1) * hiddenBit + 0 := by
        rw [hlast, Nat.add_mul, Nat.add_mul]
        omega
      rw [hword, units_normal _ hiddenBit_pos, hlast, Nat.add_zero, Nat.pow_succ', Nat.mul_left_comm, Nat.mul_assoc]
    · have hword : e * hiddenBit + r = (e + 1) * hiddenBit + (r - hiddenBit) := by
        rw [Nat.add_mul]
        omega
      rw [hword, units_normal _ (by omega), Nat.add_sub_cancel' (Nat.le_of_not_lt hsubnormal)]

theorem exists_grid (word : Nat) :
    ∃ e r, word = e * hiddenBit + r ∧ r < 2 * hiddenBit ∧ (e = 0 ∨ hiddenBit ≤ r) := by
  have hparts := Nat.div_add_mod' word hiddenBit
  have hmod : word % hiddenBit < hiddenBit := Nat.mod_lt _ hiddenBit_pos
  cases hdiv : word / hiddenBit with
  | zero => exact ⟨0, word, by omega, by rw [hdiv] at hparts; omega, .inl rfl⟩
  | succ e =>
    rw [hdiv, Nat.add_mul] at hparts
    exact ⟨e, hiddenBit + word % hiddenBit, by omega, by omega, .inr (by omega)⟩

theorem strictMono_units : StrictMono units := by
  apply strictMono_nat_of_lt_succ
  intro word
  obtain ⟨e, r, rfl, hr, he⟩ := exists_grid word
  rw [Nat.add_assoc, units_grid (Nat.le_of_lt hr) he, units_grid hr (he.imp_right fun h => Nat.le_succ_of_le h)]
  exact Nat.mul_lt_mul_of_pos_right (Nat.lt_succ_self r) (Nat.two_pow_pos e)

/-! ## The numbers of words -/

/-- The number that a sign-free word stands for. The word of infinity stands where the float after the
greatest one would be. -/
def wordValue (word : Nat) : ℚ :=
  units word / unitsPerOne

theorem unitsPerOne_cast_pos : (0 : ℚ) < unitsPerOne :=
  Nat.cast_pos.mpr unitsPerOne_pos

theorem strictMono_wordValue : StrictMono wordValue := fun _ _ h =>
  div_lt_div_of_pos_right (Nat.cast_lt.mpr (strictMono_units h)) unitsPerOne_cast_pos

theorem unitsPerOne_cast : (unitsPerOne : ℚ) = 2 ^ (1074 : Int) := by
  simp only [unitsPerOne, Nat.cast_pow, Nat.cast_ofNat, zpow_ofNat]

theorem wordValue_of_lt {word : Nat} (h : word < hiddenBit) : wordValue word = word * 2 ^ (-1074 : Int) := by
  rw [wordValue, units_of_lt h, unitsPerOne_cast, zpow_neg, div_eq_mul_inv]

theorem wordValue_normal (k : Nat) {m : Nat} (hm : m < hiddenBit) :
    wordValue ((k + 1) * hiddenBit + m) = (hiddenBit + m : Nat) * 2 ^ ((k : Int) - 1074) := by
  rw [wordValue, units_normal k hm, unitsPerOne_cast, zpow_sub₀ two_ne_zero, Nat.cast_mul, Nat.cast_pow,
    Nat.cast_ofNat, zpow_natCast, mul_div_assoc]

open Float.Model Float.Model.UnpackedFloat in
theorem wordValue_magnitude {x : Float} {s : Sign} {m : Nat} {e : Int} {hm : 0 < m}
    (h : x.toModel.unpack = .finite s m e hm) : wordValue (magnitude x) = m * 2 ^ e := by
  obtain ⟨b, hb⟩ : ∃ b : BitVec Format.binary64.numBits, b = x.toBits.toBitVec := ⟨_, rfl⟩
  have hunpack : UnpackedFloat.unpack Format.binary64 b = .finite s m e hm := by rw [← h, hb]; rfl
  have hword : magnitude x = b.toNat % 2 ^ 63 := by rw [hb]; rfl
  have hbias : (Format.binary64.exponentBias : Int) + Format.binary64.mantissaBitsWithoutImplicit = 1075 := by
    decide
  have hmantissa := toNat_unpackMantissa b
  have hexponent := toNat_unpackExponent b
  have hbit : hiddenBit = 2 ^ 52 := rfl
  unfold UnpackedFloat.unpack at hunpack
  dsimp only at hunpack
  rw [hbias] at hunpack
  rw [hword]
  by_cases hones : unpackExponent b = -1#_
  · rw [if_pos hones] at hunpack
    by_cases hinf : unpackMantissa b = 0#_
    · rw [if_pos hinf] at hunpack
      cases hunpack
    · rw [if_neg hinf] at hunpack
      cases hunpack
  · rw [if_neg hones] at hunpack
    by_cases hzero : unpackExponent b = 0#_
    · -- a float without a hidden bit
      rw [if_pos hzero] at hunpack
      by_cases hnone : unpackMantissa b = 0#_
      · rw [dif_pos hnone] at hunpack
        cases hunpack
      · rw [dif_neg hnone] at hunpack
        cases hunpack
        have hfield : (unpackExponent b).toNat = 0 := congrArg BitVec.toNat hzero
        have hlt : b.toNat % 2 ^ 52 < hiddenBit := by omega
        have hsame : b.toNat % 2 ^ 63 = b.toNat % 2 ^ 52 := by omega
        rw [hmantissa, hsame, hfield]
        exact wordValue_of_lt hlt
    · rw [if_neg hzero] at hunpack
      cases hunpack
      obtain ⟨k, hk⟩ : ∃ k, (unpackExponent b).toNat = k + 1 :=
        Nat.exists_eq_succ_of_ne_zero fun hne => hzero (BitVec.eq_of_toNat_eq hne)
      have hfields : b.toNat % 2 ^ 63 = (k + 1) * hiddenBit + b.toNat % 2 ^ 52 := by
        rw [hbit]
        omega
      rw [toNat_one_append, hmantissa, hk, hfields, wordValue_normal k (by omega), hbit,
        show ((k + 1 : Nat) : Int) - 1075 = (k : Int) - 1074 by omega]

/-! ## The nearest word -/

/-- No word up to that of infinity stands for a number nearer to `q`, and the word is even if another one
is just as near. -/
structure IsNearest (q : ℚ) (word : Nat) : Prop where
  le_infinityWord : word ≤ infinityWord
  le : ∀ w ≤ infinityWord, |q - wordValue word| ≤ |q - wordValue w|
  even : ∀ w ≤ infinityWord, w ≠ word → |q - wordValue w| = |q - wordValue word| → Even word

theorem add_eq_of_abs_sub_eq {q a b : ℚ} (hne : a ≠ b) (h : |q - a| = |q - b|) : a + b = 2 * q := by
  rcases abs_eq_abs.mp h with h | h
  · exact absurd (by linarith) hne
  · linarith

/-- Rounding has one outcome: of two words that are equally near not both are even, or else the one
between them would be nearer. -/
theorem IsNearest.unique {q : ℚ} {v w : Nat} (hv : IsNearest q v) (hw : IsNearest q w) : v = w := by
  wlog hle : v ≤ w generalizing v w
  · exact (this hw hv (Nat.le_of_not_le hle)).symm
  by_contra hne
  have hsame : |q - wordValue v| = |q - wordValue w| :=
    le_antisymm (hv.le w hw.le_infinityWord) (hw.le v hv.le_infinityWord)
  have hmiddle := add_eq_of_abs_sub_eq (fun h => hne (strictMono_wordValue.injective h)) hsame
  obtain ⟨i, hi⟩ := hv.even w hw.le_infinityWord (Ne.symm hne) hsame.symm
  obtain ⟨j, hj⟩ := hw.even v hv.le_infinityWord hne hsame
  have hbefore := strictMono_wordValue (show v < v + 1 by omega)
  have hafter := strictMono_wordValue (show v + 1 < w by omega)
  have hnearer : |q - wordValue (v + 1)| < q - wordValue v :=
    abs_lt.mpr ⟨by linarith, by linarith⟩
  have hnearest := hv.le (v + 1) (by have := hw.le_infinityWord; omega)
  rw [abs_of_nonneg (by linarith)] at hnearest
  exact absurd hnearer (not_lt.mpr hnearest)

/-- A number is at most another one, and less unless the word is even. -/
def LeIfEven {α : Type} [LE α] (word : Nat) (a b : α) : Prop :=
  a ≤ b ∧ (a = b → Even word)

/-- A word is nearest to the numbers between the midpoints to its two neighbours, to the midpoints
themselves if it is even. -/
theorem isNearest_of_midpoints {q : ℚ} {word : Nat} (hword : word ≤ infinityWord)
    (hbelow : ∀ w, w + 1 = word → LeIfEven word (wordValue w + wordValue word) (2 * q))
    (habove : word < infinityWord → LeIfEven word (2 * q) (wordValue word + wordValue (word + 1))) :
    IsNearest q word := by
  -- what the midpoint to a neighbour says, the midpoints to the words behind it say as well
  have hlower : ∀ w < word, LeIfEven word (wordValue w + wordValue word) (2 * q) := by
    intro w hw
    obtain ⟨v, rfl⟩ : ∃ v, v + 1 = word := ⟨word - 1, by omega⟩
    obtain ⟨hmiddle, heven⟩ := hbelow v rfl
    have hle := strictMono_wordValue.monotone (Nat.le_of_lt_succ hw)
    exact ⟨by linarith, fun h => heven (by linarith)⟩
  have hupper : ∀ w ≤ infinityWord, word < w → LeIfEven word (2 * q) (wordValue word + wordValue w) := by
    intro w hlimit hw
    obtain ⟨hmiddle, heven⟩ := habove (by omega)
    have hle := strictMono_wordValue.monotone (Nat.succ_le_of_lt hw)
    exact ⟨by linarith, fun h => heven (by linarith)⟩
  refine ⟨hword, fun w hw => ?_, fun w hw hne hsame => ?_⟩
  · rcases Nat.lt_trichotomy w word with hlt | rfl | hlt
    · have hvalue := strictMono_wordValue hlt
      have hmiddle := (hlower w hlt).1
      rw [abs_of_nonneg (by linarith : 0 ≤ q - wordValue w)]
      exact abs_le.mpr ⟨by linarith, by linarith⟩
    · exact le_refl _
    · have hvalue := strictMono_wordValue hlt
      have hmiddle := (hupper w hw hlt).1
      rw [abs_of_nonpos (by linarith : q - wordValue w ≤ 0)]
      exact abs_le.mpr ⟨by linarith, by linarith⟩
  · have hmiddle := add_eq_of_abs_sub_eq (fun h => hne (strictMono_wordValue.injective h)) hsame
    rcases Nat.lt_or_gt_of_ne hne with hlt | hlt
    · exact (hlower w hlt).2 hmiddle
    · exact (hupper w hw hlt).2 (by rw [add_comm, hmiddle])

theorem isNearest_infinityWord_of {q : ℚ}
    (hbelow : ∀ w, w + 1 = infinityWord → wordValue w + wordValue infinityWord ≤ 2 * q) :
    IsNearest q infinityWord :=
  isNearest_of_midpoints (le_refl _) (fun w hw => ⟨hbelow w hw, fun _ => by decide⟩) fun h => absurd h (lt_irrefl _)

/-! ## Rounding to a whole number -/

theorem div_le_roundHalfEven (num den : Nat) : num / den ≤ roundHalfEven num den := by
  unfold roundHalfEven
  dsimp only
  split
  · omega
  · split <;> omega

theorem roundHalfEven_midpoints (num : Nat) {den : Nat} (hden : 0 < den) :
    LeIfEven (roundHalfEven num den) (2 * roundHalfEven num den * den) (2 * num + den) ∧
      LeIfEven (roundHalfEven num den) (2 * num) ((2 * roundHalfEven num den + 1) * den) := by
  have hparts := Nat.div_add_mod' num den
  have hmod : num % den < den := Nat.mod_lt _ hden
  unfold roundHalfEven LeIfEven
  dsimp only
  generalize num % den = rest at hparts hmod ⊢
  generalize num / den = floor at hparts ⊢
  subst hparts
  -- below, at and past half-way
  split
  · simp only [Nat.add_mul, Nat.mul_assoc]
    omega
  · split
    · rcases Nat.mod_two_eq_zero_or_one floor with hparity | hparity
      · simp only [hparity, Nat.even_iff, Nat.add_mul, Nat.mul_add, Nat.mul_assoc]
        omega
      · simp only [hparity, Nat.even_iff, Nat.add_mul, Nat.mul_add, Nat.mul_assoc]
        omega
    · simp only [Nat.add_mul, Nat.mul_add, Nat.mul_assoc]
      omega

/-! ## Rounding to a word -/

/-- `scaled / den` units in a word, where words have no end. -/
def rounded (scaled den : Nat) : Nat :=
  excessBits (scaled / den) * hiddenBit + roundHalfEven scaled (den * 2 ^ excessBits (scaled / den))

theorem nearest_eq_min (num den : Nat) :
    nearest num den = min infinityWord (rounded (num * unitsPerOne) den) := rfl

theorem le_of_excessBits_ne_zero {n : Nat} (h : excessBits n ≠ 0) : hiddenBit * 2 ^ excessBits n ≤ n := by
  unfold excessBits at h ⊢
  have hn : n ≠ 0 := by
    rintro rfl
    rw [Nat.log2_zero] at h
    omega
  calc
    hiddenBit * 2 ^ (n.log2 + 1 - 53) = 2 ^ (52 + (n.log2 + 1 - 53)) := (Nat.pow_add 2 52 _).symm
    _ = 2 ^ n.log2 := by rw [show 52 + (n.log2 + 1 - 53) = n.log2 by omega]
    _ ≤ n := Nat.log2_self_le hn

section

variable (scaled den : Nat)

theorem le_roundHalfEven_excess :
    excessBits (scaled / den) = 0 ∨ hiddenBit ≤ roundHalfEven scaled (den * 2 ^ excessBits (scaled / den)) := by
  refine or_iff_not_imp_left.mpr fun hexcess => Nat.le_trans ?_ (div_le_roundHalfEven _ _)
  rw [← Nat.div_div_eq_div_mul, Nat.le_div_iff_mul_le (Nat.two_pow_pos _)]
  exact le_of_excessBits_ne_zero hexcess

theorem units_rounded :
    units (rounded scaled den) =
      roundHalfEven scaled (den * 2 ^ excessBits (scaled / den)) * 2 ^ excessBits (scaled / den) :=
  units_grid (roundHalfEven_excess_le scaled den) (le_roundHalfEven_excess scaled den)

end

theorem even_hiddenBit : Even hiddenBit := by decide

theorem even_grid {e r : Nat} (hr : Even r) : Even (e * hiddenBit + r) :=
  (even_hiddenBit.mul_left e).add hr

theorem le_units_grid_succ {e r : Nat} (hr : r ≤ 2 * hiddenBit) (he : e = 0 ∨ hiddenBit ≤ r) :
    (r + 1) * 2 ^ e ≤ units (e * hiddenBit + r + 1) := by
  by_cases hlast : r = 2 * hiddenBit
  · have hword : e * hiddenBit + r + 1 = (e + 1) * hiddenBit + (hiddenBit + 1) := by
      rw [hlast, Nat.add_mul]
      omega
    rw [hword, units_grid (by have := hiddenBit_pos; omega) (.inr (Nat.le_succ _)), hlast, Nat.pow_succ',
      ← Nat.mul_assoc]
    exact Nat.mul_le_mul_right _ (by omega)
  · rw [Nat.add_assoc, units_grid (by omega) (he.imp_right fun h => Nat.le_succ_of_le h)]

theorem rounded_above (scaled : Nat) {den : Nat} (hden : 0 < den) :
    LeIfEven (rounded scaled den) (2 * scaled)
      ((units (rounded scaled den) + units (rounded scaled den + 1)) * den) := by
  have hspacing : 0 < den * 2 ^ excessBits (scaled / den) := Nat.mul_pos hden (Nat.two_pow_pos _)
  obtain ⟨hle, heven⟩ := (roundHalfEven_midpoints scaled hspacing).2
  have hnext := le_units_grid_succ (roundHalfEven_excess_le scaled den) (le_roundHalfEven_excess scaled den)
  rw [units_rounded scaled den]
  unfold rounded
  generalize excessBits (scaled / den) = e at *
  generalize roundHalfEven scaled (den * 2 ^ e) = r at *
  have hstep : (2 * r + 1) * (den * 2 ^ e) ≤ (r * 2 ^ e + units (e * hiddenBit + r + 1)) * den := by
    calc
      (2 * r + 1) * (den * 2 ^ e) = (r * 2 ^ e + (r + 1) * 2 ^ e) * den := by ring
      _ ≤ _ := Nat.mul_le_mul_right _ (Nat.add_le_add_left hnext _)
  exact ⟨Nat.le_trans hle hstep, fun h => even_grid (heven (by omega))⟩

theorem rounded_below (scaled : Nat) {den : Nat} (hden : 0 < den) {w : Nat} (hw : w + 1 = rounded scaled den) :
    LeIfEven (rounded scaled den) ((units w + units (rounded scaled den)) * den) (2 * scaled) := by
  have hspacing : 0 < den * 2 ^ excessBits (scaled / den) := Nat.mul_pos hden (Nat.two_pow_pos _)
  obtain ⟨hle, heven⟩ := (roundHalfEven_midpoints scaled hspacing).1
  have hgrid := le_roundHalfEven_excess scaled den
  have hlimit := roundHalfEven_excess_le scaled den
  have hlarge (h : excessBits (scaled / den) ≠ 0) : hiddenBit * 2 ^ excessBits (scaled / den) * den ≤ scaled :=
    (Nat.le_div_iff_mul_le hden).mp (le_of_excessBits_ne_zero h)
  have hless : units w < units (rounded scaled den) := strictMono_units (by omega)
  rw [units_rounded scaled den] at hless ⊢
  unfold rounded at hw ⊢
  generalize excessBits (scaled / den) = e at *
  generalize roundHalfEven scaled (den * 2 ^ e) = r at *
  by_cases hsame : e = 0 ∨ hiddenBit < r
  · -- the word before is one step away
    obtain ⟨k, rfl⟩ : ∃ k, r = k + 1 := Nat.exists_eq_succ_of_ne_zero (by
      rintro rfl
      rcases hsame with rfl | h
      · omega
      · omega)
    obtain rfl : w = e * hiddenBit + k := by omega
    rw [units_grid (by omega) (hsame.imp_right fun h => Nat.le_of_lt_succ h)]
    have hstep : 2 * (k + 1) * (den * 2 ^ e) = (k * 2 ^ e + (k + 1) * 2 ^ e) * den + den * 2 ^ e := by ring
    exact ⟨by omega, fun h => even_grid (heven (by omega))⟩
  · -- steps before this word are half as long, but nothing before it is rounded to it
    obtain ⟨hne, hle'⟩ := not_or.mp hsame
    obtain rfl : r = hiddenBit := by omega
    refine ⟨?_, fun _ => even_grid even_hiddenBit⟩
    calc
      (units w + hiddenBit * 2 ^ e) * den ≤ (hiddenBit * 2 ^ e + hiddenBit * 2 ^ e) * den :=
        Nat.mul_le_mul_right _ (by omega)
      _ = 2 * (hiddenBit * 2 ^ e * den) := by ring
      _ ≤ 2 * scaled := Nat.mul_le_mul_left 2 (hlarge hne)

/-! ## The nearest word is found -/

theorem LeIfEven.div {word a b c : Nat} (h : LeIfEven word a b) (hc : 0 < c) :
    LeIfEven word ((a : ℚ) / c) (b / c) := by
  have hc' : (0 : ℚ) < c := Nat.cast_pos.mpr hc
  refine ⟨(div_le_div_iff_of_pos_right hc').mpr (Nat.cast_le.mpr h.1), fun heq => h.2 ?_⟩
  exact Nat.cast_injective ((div_left_inj' hc'.ne').mp heq)

theorem wordValue_add (v w : Nat) {den : Nat} (hden : 0 < den) :
    wordValue v + wordValue w = (((units v + units w) * den : Nat) : ℚ) / (unitsPerOne * den : Nat) := by
  have hone := unitsPerOne_cast_pos.ne'
  have hden' : (den : ℚ) ≠ 0 := Nat.cast_ne_zero.mpr hden.ne'
  unfold wordValue
  push_cast
  field_simp

theorem two_mul_fraction (num : Nat) {den : Nat} (hden : 0 < den) :
    2 * ((num : ℚ) / den) = ((2 * (num * unitsPerOne) : Nat) : ℚ) / (unitsPerOne * den : Nat) := by
  have hone := unitsPerOne_cast_pos.ne'
  have hden' : (den : ℚ) ≠ 0 := Nat.cast_ne_zero.mpr hden.ne'
  push_cast
  field_simp

theorem isNearest_nearest (num : Nat) {den : Nat} (hden : 0 < den) :
    IsNearest ((num : ℚ) / den) (nearest num den) := by
  have hpos : 0 < unitsPerOne * den := Nat.mul_pos unitsPerOne_pos hden
  have hbelow : ∀ w, w + 1 = rounded (num * unitsPerOne) den →
      LeIfEven (w + 1) (wordValue w + wordValue (w + 1)) (2 * ((num : ℚ) / den)) := by
    intro w hw
    have hunits := (rounded_below (num * unitsPerOne) hden hw).div hpos
    rwa [← hw, ← wordValue_add _ _ hden, ← two_mul_fraction num hden] at hunits
  rw [nearest_eq_min]
  by_cases hlimit : rounded (num * unitsPerOne) den ≤ infinityWord
  · rw [Nat.min_eq_right hlimit]
    refine isNearest_of_midpoints hlimit (fun w hw => ?_) (fun _ => ?_)
    · rw [← hw]
      exact hbelow w hw
    · have hunits := (rounded_above (num * unitsPerOne) hden).div hpos
      rwa [← wordValue_add _ _ hden, ← two_mul_fraction num hden] at hunits
  · -- a number rounded past infinity is past the last midpoint
    rw [Nat.min_eq_left (by omega)]
    refine isNearest_infinityWord_of fun w hw => ?_
    obtain ⟨v, hv⟩ : ∃ v, v + 1 = rounded (num * unitsPerOne) den :=
      ⟨rounded (num * unitsPerOne) den - 1, by omega⟩
    have hmiddle := (hbelow v hv).1
    have hlast := strictMono_wordValue.monotone (show w ≤ v by omega)
    have hinfinity := strictMono_wordValue.monotone (show infinityWord ≤ v + 1 by omega)
    linarith

/-! ## Numerals -/

theorem wordValue_zero : wordValue 0 = 0 := by
  rw [wordValue, units_eq_zero_iff.mpr rfl, Nat.cast_zero, zero_div]

theorem wordValue_infinityWord : wordValue infinityWord = 2 ^ (1024 : Int) := by
  have hword : infinityWord = (2046 + 1) * hiddenBit + 0 := rfl
  have hbit : ((hiddenBit + 0 : Nat) : ℚ) = 2 ^ (52 : Int) := rfl
  rw [hword, wordValue_normal 2046 hiddenBit_pos, hbit, ← zpow_add₀ two_ne_zero]
  rfl

theorem isNearest_zero {q : ℚ} (h : 2 * q ≤ 1 / unitsPerOne) : IsNearest q 0 := by
  have hone : wordValue (0 + 1) = 1 / unitsPerOne := by
    rw [wordValue, units_of_lt (by decide), Nat.zero_add, Nat.cast_one]
  refine isNearest_of_midpoints (Nat.zero_le _) (fun w hw => absurd hw (Nat.succ_ne_zero w)) fun _ => ?_
  rw [wordValue_zero, zero_add, hone]
  exact ⟨h, fun _ => Even.zero⟩

theorem isNearest_infinityWord {q : ℚ} (h : 2 ^ (1024 : Int) ≤ q) : IsNearest q infinityWord := by
  refine isNearest_infinityWord_of fun w hw => ?_
  have hbefore := strictMono_wordValue (show w < infinityWord by omega)
  have hreached : wordValue infinityWord ≤ q := wordValue_infinityWord.trans_le h
  linarith only [hbefore, hreached]

namespace Numeral

def value (n : Numeral) : ℚ :=
  n.digits * 10 ^ n.exponent

theorem value_eq_fraction (n : Numeral) :
    n.value = ((n.digits * 10 ^ n.exponent.toNat : Nat) : ℚ) / (10 ^ (-n.exponent).toNat : Nat) := by
  have hpower : (10 : ℚ) ^ n.exponent = 10 ^ n.exponent.toNat / 10 ^ (-n.exponent).toNat := by
    rw [← zpow_natCast, ← zpow_natCast, ← zpow_sub₀ (by norm_num)]
    congr 1
    omega
  rw [value, hpower]
  push_cast
  exact (mul_div_assoc _ _ _).symm

theorem value_lt (n : Numeral) : n.value < 10 ^ ((width n.digits : Int) + n.exponent) := by
  have hdigits : (n.digits : ℚ) < 10 ^ width n.digits := by
    exact_mod_cast (width_le_iff n.digits (width n.digits)).mp (le_refl _)
  rw [zpow_add₀ (by norm_num), zpow_natCast]
  exact mul_lt_mul_of_pos_right hdigits (zpow_pos (by norm_num) _)

theorem le_value {n : Numeral} (h : n.digits ≠ 0) :
    (10 : ℚ) ^ ((width n.digits : Int) + n.exponent - 1) ≤ n.value := by
  obtain ⟨k, hk⟩ : ∃ k, width n.digits = k + 1 := by
    refine Nat.exists_eq_succ_of_ne_zero fun hzero => h ?_
    have hlt := (width_le_iff n.digits 0).mp (Nat.le_of_eq hzero)
    omega
  have hdigits : (10 : ℚ) ^ k ≤ n.digits := by
    have hnot : ¬n.digits < 10 ^ k := fun hlt => by
      have := (width_le_iff _ _).mpr hlt
      omega
    exact_mod_cast Nat.le_of_not_lt hnot
  rw [hk, show ((k + 1 : Nat) : Int) + n.exponent - 1 = k + n.exponent by omega, zpow_add₀ (by norm_num),
    zpow_natCast]
  exact mul_le_mul_of_nonneg_right hdigits (zpow_nonneg (by norm_num) _)

/-- Reading rounds correctly; the numbers that are known to be too small or too large without forming them
are so. -/
theorem isNearest_toWord (n : Numeral) : IsNearest n.value n.toWord := by
  by_cases hdigits : n.digits = 0
  · rw [toWord_of_digits_zero hdigits]
    refine isNearest_zero ?_
    rw [value, hdigits, Nat.cast_zero, zero_mul, mul_zero]
    exact div_nonneg zero_le_one unitsPerOne_cast_pos.le
  · by_cases hlow : (width n.digits : Int) + n.exponent < -330
    · rw [toWord_of_low hlow]
      refine isNearest_zero ?_
      have hpower : (10 : ℚ) ^ ((width n.digits : Int) + n.exponent) ≤ 10 ^ (-330 : Int) :=
        zpow_le_zpow_right₀ (by norm_num) (by omega)
      have hleast : 2 * (10 : ℚ) ^ (-330 : Int) ≤ 1 / unitsPerOne := by
        have hpowers : 2 * unitsPerOne ≤ 10 ^ 330 := by decide +kernel
        rw [zpow_neg, ← one_div, mul_one_div, div_le_div_iff₀ (zpow_pos (by norm_num) _) unitsPerOne_cast_pos,
          one_mul]
        exact_mod_cast hpowers
      linarith [n.value_lt]
    · by_cases hhigh : 310 < (width n.digits : Int) + n.exponent
      · rw [toWord_of_high hdigits hhigh]
        refine isNearest_infinityWord ?_
        have hpowers : 2 ^ 1024 ≤ 10 ^ 310 := by decide +kernel
        calc
          (2 : ℚ) ^ (1024 : Int) ≤ 10 ^ (310 : Int) := by exact_mod_cast hpowers
          _ ≤ 10 ^ ((width n.digits : Int) + n.exponent - 1) := zpow_le_zpow_right₀ (by norm_num) (by omega)
          _ ≤ n.value := le_value hdigits
      · rw [toWord_eq_nearest hdigits (by omega) (by omega), value_eq_fraction]
        exact isNearest_nearest _ (Nat.pow_pos (by decide))

end Numeral

end Worksheet.Decimal
