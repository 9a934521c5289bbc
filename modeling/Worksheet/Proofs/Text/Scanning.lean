import Worksheet.Decimal.Numeral
import Worksheet.Text.WhiteSpace

/-!
# Reading a run of characters off a text

* `Stops p cs` : the text `cs` is at its end or goes on with a character outside the class `p`;
* `Stops.takeWhile_append`, `Stops.dropWhile_append` : such a text after another one changes nothing;
* `takeWhile_run`, `dropWhile_run` : a run of the class before such a text is taken as a whole;
* `trimChars_eq_self` : a text without white space is trimmed to itself;
* `takeDigits_run` : so are digits;
* `ofDigits_toDigits`, `takeDigits_toDigits` : a number in decimal is read back.
-/

namespace Worksheet.Text

/-- No character of the class stands at the start of the text. -/
def Stops (p : Char → Bool) (cs : List Char) : Prop :=
  ∀ c ∈ cs.head?, p c = false

theorem Stops.nil (p : Char → Bool) : Stops p [] := by
  intro c hc
  simp at hc

theorem Stops.cons {p : Char → Bool} {c : Char} (h : p c = false) (cs : List Char) :
    Stops p (c :: cs) := by
  intro d hd
  obtain rfl : c = d := by simpa using hd
  exact h

theorem Stops.takeWhile {p : Char → Bool} {cs : List Char} (h : Stops p cs) :
    cs.takeWhile p = [] := by
  cases cs with
  | nil => rfl
  | cons c cs => simp [h c (by simp)]

theorem Stops.dropWhile {p : Char → Bool} {cs : List Char} (h : Stops p cs) :
    cs.dropWhile p = cs := by
  cases cs with
  | nil => rfl
  | cons c cs => simp [h c (by simp)]

variable {p : Char → Bool} {run rest : List Char}

theorem Stops.takeWhile_append (h : Stops p rest) (cs : List Char) : (cs ++ rest).takeWhile p = cs.takeWhile p := by
  induction cs with
  | nil => exact h.takeWhile
  | cons c cs ih =>
    rw [List.cons_append, List.takeWhile_cons, List.takeWhile_cons, ih]

theorem Stops.dropWhile_append (h : Stops p rest) (cs : List Char) :
    (cs ++ rest).dropWhile p = cs.dropWhile p ++ rest := by
  induction cs with
  | nil => exact h.dropWhile
  | cons c cs ih =>
    rw [List.cons_append, List.dropWhile_cons, List.dropWhile_cons, ih]
    split <;> rfl

theorem takeWhile_run (hrun : ∀ c ∈ run, p c = true) (hrest : Stops p rest) :
    (run ++ rest).takeWhile p = run := by
  rw [List.takeWhile_append_of_pos hrun, hrest.takeWhile, List.append_nil]

theorem dropWhile_run (hrun : ∀ c ∈ run, p c = true) (hrest : Stops p rest) :
    (run ++ rest).dropWhile p = rest := by
  rw [List.dropWhile_append_of_pos hrun, hrest.dropWhile]

theorem trimChars_eq_self {cs : List Char} (h : ∀ c ∈ cs, isWhiteSpace c = false) : trimChars cs = cs := by
  have hstart : Stops isWhiteSpace cs := fun c hc => h c (List.mem_of_mem_head? hc)
  have hend : Stops isWhiteSpace cs.reverse := fun c hc => h c (List.mem_reverse.mp (List.mem_of_mem_head? hc))
  rw [trimChars, hstart.dropWhile, hend.dropWhile, List.reverse_reverse]

end Worksheet.Text

namespace Worksheet.Decimal

open Text

/-! ## Decimal digits -/

theorem isDigit_of_mem_toDigits {n : Nat} {c : Char} (h : c ∈ Nat.toDigits 10 n) : c.isDigit = true :=
  Nat.isDigit_of_mem_toDigits (by decide) (by decide) h

theorem ofDigits_eq (ds : List Char) : ofDigits ds = Nat.ofDigitChars 10 ds 0 := by
  rw [Nat.ofDigitChars_eq_foldl]
  rfl

theorem ofDigits_toDigits (n : Nat) : ofDigits (Nat.toDigits 10 n) = n := by
  rw [ofDigits_eq, Nat.ofDigitChars_ten_toDigits]

theorem takeDigits_run {ds rest : List Char} (hds : ∀ c ∈ ds, c.isDigit = true) (h : Stops Char.isDigit rest) :
    takeDigits (ds ++ rest) = (ds, rest) := by
  rw [takeDigits, takeWhile_run hds h, dropWhile_run hds h]

theorem takeDigits_toDigits (n : Nat) {rest : List Char} (h : Stops Char.isDigit rest) :
    takeDigits (Nat.toDigits 10 n ++ rest) = (Nat.toDigits 10 n, rest) :=
  takeDigits_run (fun _ => isDigit_of_mem_toDigits) h

theorem eq_nil_of_toDigits_zero (n : Nat) {ds : List Char} (h : Nat.toDigits 10 n = '0' :: ds) : ds = [] := by
  induction n using Nat.strongRecOn generalizing ds with
  | ind n ih =>
    rw [Nat.toDigits_eq_if (by decide)] at h
    by_cases hn : n < 10
    · rw [if_pos hn] at h
      exact (List.cons.inj h).2.symm
    · rw [if_neg hn] at h
      cases hhigh : Nat.toDigits 10 (n / 10) with
      | nil => exact absurd hhigh Nat.toDigits_ne_nil
      | cons d es =>
        rw [hhigh, List.cons_append] at h
        obtain ⟨rfl, -⟩ := List.cons.inj h
        obtain rfl := ih (n / 10) (by omega) hhigh
        have hzero := ofDigits_toDigits (n / 10)
        rw [hhigh, show ofDigits ['0'] = 0 from rfl] at hzero
        omega

end Worksheet.Decimal
