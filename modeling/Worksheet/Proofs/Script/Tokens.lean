import Worksheet.Formula.Reference
import Worksheet.Script.Lexer
import Worksheet.Proofs.Address.Name

/-!
# Reading calls as tokens

* `tokensFrom_step`, `tokensFrom_one` : a token at a time;
* `step_word`, `step_digits`, `step_openParen` : words, integers in decimal and marks;
* `Reference.tokens`, `tokensFrom_script` : the tokens of the call that looks a reference up.
-/

namespace Worksheet.Script.Lexer

open Text Decimal CellRef

/-! ## One token at a time -/

theorem tokensFrom_skip (xs rest : List Char) (place : Place) (read : List Token) :
    tokensFrom xs.length place read (xs ++ rest) = tokensFrom 0 place read rest := by
  induction xs with
  | nil => rfl
  | cons x xs ih => exact ih

theorem tokensFrom_step (cs : List Char) {rest : List Char} {place : Place} {s : Step} (hcs : cs ≠ [])
    (hs : step place (cs ++ rest) = some s) (hrest : s.rest = rest) (read : List Token) :
    tokensFrom 0 place read (cs ++ rest) = tokensFrom 0 s.place (s.tokens.reverse ++ read) rest := by
  cases cs with
  | nil => exact absurd rfl hcs
  | cons c cs =>
    rw [List.cons_append] at hs ⊢
    rw [tokensFrom]
    simp only [hs, hrest]
    rw [show (cs ++ rest).length - rest.length = cs.length by rw [List.length_append]; omega, tokensFrom_skip]

/-- A step that reads one token outside embedded blocks. -/
theorem tokensFrom_one (cs : List Char) {rest : List Char} {sign : Bool} {t : Token} (hcs : cs ≠ [])
    (hs : step ⟨sign, []⟩ (cs ++ rest) = some (Step.one ⟨sign, []⟩ t rest)) (read : List Token) :
    tokensFrom 0 ⟨sign, []⟩ read (cs ++ rest) = tokensFrom 0 ⟨t.admitsSign, []⟩ (t :: read) rest :=
  tokensFrom_step cs hcs hs rfl read

variable (sign : Bool) (read : List Token) (rest : List Char)

theorem tokensFrom_blank : tokensFrom 0 ⟨sign, []⟩ read (' ' :: rest) = tokensFrom 0 ⟨sign, []⟩ read rest :=
  tokensFrom_step [' '] (List.cons_ne_nil _ _) rfl rfl read

theorem tokensFrom_comma :
    tokensFrom 0 ⟨sign, []⟩ read (',' :: rest) = tokensFrom 0 ⟨true, []⟩ (.comma :: read) rest :=
  tokensFrom_one [','] (List.cons_ne_nil _ _) rfl read

theorem tokensFrom_closeParen :
    tokensFrom 0 ⟨sign, []⟩ read (')' :: rest) = tokensFrom 0 ⟨false, []⟩ (.closeParen :: read) rest :=
  tokensFrom_one [')'] (List.cons_ne_nil _ _) rfl read

variable {rest}

theorem step_openParen (place : Place) (h : Stops (fun c => !c.isAlphanum) rest) (hne : rest ≠ []) :
    step place ('(' :: rest) = some (Step.one place .openParen rest) := by
  cases rest with
  | nil => exact absurd rfl hne
  | cons c rest =>
    have hc : c.isAlphanum = true := by simpa using h c (by simp)
    have hclose : c ≠ ')' := by
      rintro rfl
      exact absurd hc (by decide)
    have hstar : c ≠ '*' := by
      rintro rfl
      exact absurd hc (by decide)
    have hmark : readMark ('(' :: c :: rest) = some (.openParen, c :: rest) := by
      simp [readMark, hclose, hstar]
    simp [step, isBlank, backquote, markStep, hmark]

theorem tokensFrom_openParen (h : Stops (fun c => !c.isAlphanum) rest) (hne : rest ≠ []) :
    tokensFrom 0 ⟨sign, []⟩ read ('(' :: rest) = tokensFrom 0 ⟨true, []⟩ (.openParen :: read) rest :=
  tokensFrom_one ['('] (List.cons_ne_nil _ _) (step_openParen _ h hne) read

/-! ## Words -/

theorem not_isBlank_of_isAlpha {c : Char} (h : c.isAlpha = true) : isBlank c = false := by
  rw [← Bool.not_eq_true]
  intro hblank
  simp only [isBlank, Bool.or_eq_true, decide_eq_true_eq] at hblank
  obtain (((rfl | rfl) | rfl) | rfl) | rfl := hblank <;> exact absurd h (by decide)

theorem step_word (place : Place) {word : List Char} {t : Token} (hword : ∀ c ∈ word, c.isAlpha = true)
    (hne : word ≠ []) (hrest : Stops isWordPart rest) (ht : ofWord? word = some t) :
    step place (word ++ rest) = some (Step.one place t rest) := by
  have hpart : ∀ c ∈ word, isWordPart c = true := fun c hc => by
    rw [isWordPart, Char.isAlphanum, hword c hc, Bool.true_or, Bool.true_or]
  have htake := takeWhile_run hpart hrest
  have hdrop := dropWhile_run hpart hrest
  cases word with
  | nil => exact absurd rfl hne
  | cons c word =>
    have hc : c.isAlpha = true := hword c List.mem_cons_self
    have hdigit : c.isDigit = false := by
      rw [← Bool.not_eq_true]
      intro h
      rw [isAlpha_of_isDigit h] at hc
      exact absurd hc (by decide)
    rw [List.cons_append] at htake hdrop ⊢
    simp [step, not_isBlank_of_isAlpha hc, hdigit, hc, htake, hdrop, ht]

theorem tokensFrom_word {word : List Char} {t : Token} (hword : ∀ c ∈ word, c.isAlpha = true)
    (hne : word ≠ []) (hrest : Stops isWordPart rest) (ht : ofWord? word = some t) :
    tokensFrom 0 ⟨sign, []⟩ read (word ++ rest) = tokensFrom 0 ⟨t.admitsSign, []⟩ (t :: read) rest :=
  tokensFrom_one word hne (step_word _ hword hne hrest ht) read

/-! ## Integers in decimal -/

def goesOnNumber (c : Char) : Bool :=
  isWordPart c || c = '.'

theorem baseOf?_eq_none {c : Char} (h : c.isAlpha = false) : baseOf? c = none := by
  unfold baseOf?
  split
  all_goals first | rfl | exact absurd h (by decide)

variable {ds : List Char} (hds : ∀ c ∈ ds, c.isDigit = true)
include hds

theorem takeBaseDigits_digits (h : Stops goesOnNumber rest) :
    takeBaseDigits Char.isDigit (ds ++ rest) = (ds, rest) := by
  have hrun : ∀ c ∈ ds, (c.isDigit || c = '_') = true := fun c hc => by rw [hds c hc, Bool.true_or]
  have hstop : Stops (fun c => c.isDigit || c = '_') rest := fun c hc => by
    have := h c hc
    simp only [goesOnNumber, isWordPart, Char.isAlphanum, Bool.or_eq_false_iff] at this
    simp [this.1.1.2, this.1.2]
  have hfilter : ds.filter (· != '_') = ds := List.filter_eq_self.mpr fun c hc => by
    rw [bne_iff_ne]
    rintro rfl
    exact absurd (hds '_' hc) (by decide)
  rw [takeBaseDigits, takeWhile_run hrun hstop, dropWhile_run hrun hstop, hfilter]

omit hds in
theorem takeFraction?_eq_none (h : Stops goesOnNumber rest) : takeFraction? rest = none := by
  unfold takeFraction?
  split
  · exact absurd (h '.' rfl) (by decide)
  · rfl

omit hds in
theorem takeExponent?_eq_none (h : Stops goesOnNumber rest) : takeExponent? rest = none := by
  unfold takeExponent?
  split
  · rename_i e c cs
    have he : ¬(e = 'e' ∨ e = 'E') := by
      rintro (rfl | rfl) <;> exact absurd (h _ rfl) (by decide)
    rw [if_neg he]
  · rfl

theorem readNumber_digits (negative : Bool) (h : Stops goesOnNumber rest) :
    readNumber negative (ds ++ rest) = readDecimal negative (ds ++ rest) := by
  have hsecond : ∀ c cs, ds ++ rest = '0' :: c :: cs → baseOf? c = none := by
    intro c cs heq
    refine baseOf?_eq_none ?_
    match ds, hds with
    | [], _ =>
      have := h '0' (by rw [← List.nil_append rest, heq]; rfl)
      exact absurd this (by decide)
    | [d], _ =>
      obtain ⟨-, rfl⟩ : d = '0' ∧ rest = c :: cs := by simpa using heq
      have := h c rfl
      simp only [goesOnNumber, isWordPart, Char.isAlphanum, Bool.or_eq_false_iff] at this
      exact this.1.1.1
    | d :: e :: ds, hds =>
      obtain ⟨-, rfl, -⟩ : d = '0' ∧ e = c ∧ ds ++ rest = cs := by simpa using heq
      exact isAlpha_of_isDigit (hds e (by simp))
  unfold readNumber
  split
  · rename_i c cs heq
    rw [hsecond c cs heq]
  · rfl

omit hds in
theorem wholeToken?_toDigits {n : Nat} (hn : n < 2 ^ 63) :
    wholeToken? false (Nat.toDigits 10 n) = some (.int (Int64.ofInt n)) := by
  have hbounds : -(2 ^ 63 : Int) ≤ n ∧ (n : Int) < 2 ^ 63 := by omega
  rw [wholeToken?, ofDigits_toDigits]
  exact if_pos hbounds

omit hds in
theorem step_digits (place : Place) {n : Nat} {t : Token} (ht : wholeToken? false (Nat.toDigits 10 n) = some t)
    (h : Stops goesOnNumber rest) : step place (Nat.toDigits 10 n ++ rest) = some (Step.one place t rest) := by
  have hdigits : ∀ c ∈ Nat.toDigits 10 n, c.isDigit = true := fun c => isDigit_of_mem_toDigits
  have hnumber : readNumber false (Nat.toDigits 10 n ++ rest) = some (t, rest) := by
    rw [readNumber_digits hdigits _ h, readDecimal, takeBaseDigits_digits hdigits h]
    simp only [takeFraction?_eq_none h, takeExponent?_eq_none h, ht, Option.map_some]
  obtain ⟨d, ds, hds⟩ := List.exists_cons_of_ne_nil (Nat.toDigits_ne_nil (n := n) (b := 10))
  have hd : d.isDigit = true := hdigits d (by simp [hds])
  have hblank : isBlank d = false := by
    rw [← Bool.not_eq_true]
    intro hblank
    simp only [isBlank, Bool.or_eq_true, decide_eq_true_eq] at hblank
    obtain (((rfl | rfl) | rfl) | rfl) | rfl := hblank <;> exact absurd hd (by decide)
  rw [hds, List.cons_append] at hnumber ⊢
  simp [step, hblank, hd, hnumber]

omit hds in
theorem tokensFrom_digits {n : Nat} {t : Token} (ht : wholeToken? false (Nat.toDigits 10 n) = some t)
    (h : Stops goesOnNumber rest) :
    tokensFrom 0 ⟨sign, []⟩ read (Nat.toDigits 10 n ++ rest) = tokensFrom 0 ⟨t.admitsSign, []⟩ (t :: read) rest :=
  tokensFrom_one (Nat.toDigits 10 n) Nat.toDigits_ne_nil (step_digits _ ht h) read

end Worksheet.Script.Lexer

/-! ## Calls of lookups -/

namespace Worksheet.Formula.Reference

open Script Script.Lexer Text Decimal

/-- Whether the columns and rows of a reference are integers of scripts. -/
def InReach : Reference → Prop
  | .cell r => r.InReach
  | .range a b => a.InReach ∧ b.InReach

def index (n : Nat) : Token :=
  .int (Int64.ofInt n)

def tokens : Reference → List Token
  | .cell r => [.name "CELL", .openParen, index r.column, .comma, index r.row, .closeParen]
  | .range a b =>
    [.name "RANGE", .openParen, index a.column, .comma, index a.row, .comma, index b.column, .comma,
      index b.row, .closeParen]

theorem stops_toDigits_of_isAlphanum (n : Nat) (rest : List Char) :
    Stops (fun c => !c.isAlphanum) (Nat.toDigits 10 n ++ rest) := by
  intro c hc
  cases hdigits : Nat.toDigits 10 n with
  | nil => exact absurd hdigits Nat.toDigits_ne_nil
  | cons d ds =>
    obtain rfl : d = c := by simpa [hdigits] using hc
    have := CellRef.isAlphanum_of_mem_toDigits n d (by simp [hdigits])
    simp [this]

theorem tokensFrom_index (sign : Bool) (read : List Token) {n : Nat} (hn : n < 2 ^ 63) (rest : List Char) :
    tokensFrom 0 ⟨sign, []⟩ read (Nat.toDigits 10 n ++ ',' :: ' ' :: rest) =
      tokensFrom 0 ⟨true, []⟩ (.comma :: index n :: read) rest := by
  rw [tokensFrom_digits sign read (wholeToken?_toDigits hn) (Stops.cons (by decide) _), tokensFrom_comma, tokensFrom_blank]
  rfl

theorem tokensFrom_lastIndex (sign : Bool) (read : List Token) {n : Nat} (hn : n < 2 ^ 63) (rest : List Char) :
    tokensFrom 0 ⟨sign, []⟩ read (Nat.toDigits 10 n ++ ')' :: rest) =
      tokensFrom 0 ⟨false, []⟩ (.closeParen :: index n :: read) rest := by
  rw [tokensFrom_digits sign read (wholeToken?_toDigits hn) (Stops.cons (by decide) _), tokensFrom_closeParen]
  rfl

theorem tokensFrom_head (sign : Bool) (read : List Token) {word : List Char} {s : String}
    (hword : ∀ c ∈ word, c.isAlpha = true) (hne : word ≠ []) (hs : ofWord? word = some (.name s)) {n : Nat}
    (hn : n < 2 ^ 63) (rest : List Char) :
    tokensFrom 0 ⟨sign, []⟩ read (word ++ '(' :: (Nat.toDigits 10 n ++ ',' :: ' ' :: rest)) =
      tokensFrom 0 ⟨true, []⟩ (.comma :: index n :: .openParen :: .name s :: read) rest := by
  rw [tokensFrom_word sign read hword hne (Stops.cons (by decide) _) hs,
    tokensFrom_openParen _ _ (stops_toDigits_of_isAlphanum n _) (by simp), tokensFrom_index _ _ hn]

theorem script_cell (r : CellRef) (rest : List Char) :
    (Reference.cell r).script ++ rest = "CELL".toList ++ '(' :: (Nat.toDigits 10 r.column ++
      ',' :: ' ' :: (Nat.toDigits 10 r.row ++ ')' :: rest)) := by
  have hhead : "CELL(".toList = "CELL".toList ++ ['('] := rfl
  have hcomma : ", ".toList = [',', ' '] := rfl
  unfold script
  rw [hhead, hcomma]
  simp only [List.append_assoc, List.cons_append, List.nil_append]

theorem script_range (a b : CellRef) (rest : List Char) :
    (Reference.range a b).script ++ rest = "RANGE".toList ++ '(' :: (Nat.toDigits 10 a.column ++
      ',' :: ' ' :: (Nat.toDigits 10 a.row ++ ',' :: ' ' :: (Nat.toDigits 10 b.column ++
      ',' :: ' ' :: (Nat.toDigits 10 b.row ++ ')' :: rest)))) := by
  have hhead : "RANGE(".toList = "RANGE".toList ++ ['('] := rfl
  have hcomma : ", ".toList = [',', ' '] := rfl
  unfold script
  rw [hhead, hcomma]
  simp only [List.append_assoc, List.cons_append, List.nil_append]

theorem ofWord?_cell : ofWord? "CELL".toList = some (.name "CELL") := rfl

theorem ofWord?_range : ofWord? "RANGE".toList = some (.name "RANGE") := rfl

theorem tokensFrom_script {r : Reference} (hr : r.InReach) (sign : Bool) (read : List Token)
    (rest : List Char) :
    tokensFrom 0 ⟨sign, []⟩ read (r.script ++ rest) =
      tokensFrom 0 ⟨false, []⟩ (r.tokens.reverse ++ read) rest := by
  cases r with
  | cell r =>
    have hr : r.InReach := hr
    rw [script_cell, tokensFrom_head _ _ (List.all_eq_true.mp rfl) (by decide) ofWord?_cell hr.column_lt,
      tokensFrom_lastIndex _ _ hr.row_lt]
    rfl
  | range a b =>
    obtain ⟨ha, hb⟩ : a.InReach ∧ b.InReach := hr
    rw [script_range, tokensFrom_head _ _ (List.all_eq_true.mp rfl) (by decide) ofWord?_range ha.column_lt,
      tokensFrom_index _ _ ha.row_lt, tokensFrom_index _ _ hb.column_lt, tokensFrom_lastIndex _ _ hb.row_lt]
    rfl

theorem tokens?_script {r : Reference} (hr : r.InReach) : tokens? (String.ofList r.script) = some r.tokens := by
  have h := tokensFrom_script hr true [] []
  rw [List.append_nil, List.append_nil] at h
  rw [tokens?, String.toList_ofList, h, tokensFrom, List.reverse_reverse]

theorem stops_script (r : Reference) (rest : List Char) :
    Stops (fun c => !c.isAlphanum) (r.script ++ rest) := by
  cases r <;> exact Stops.cons (by decide) _

theorem tokens?_call {r : Reference} (hr : r.InReach) {word : List Char} {s : String}
    (hword : ∀ c ∈ word, c.isAlpha = true) (hne : word ≠ []) (hs : ofWord? word = some (.name s)) :
    tokens? (String.ofList (word ++ '(' :: (r.script ++ [')']))) =
      some (.name s :: .openParen :: (r.tokens ++ [.closeParen])) := by
  have hscript : r.script ++ [')'] ≠ [] := by simp
  rw [tokens?, String.toList_ofList, tokensFrom_word true [] hword hne (Stops.cons (by decide) _) hs,
    tokensFrom_openParen _ _ (stops_script r _) hscript, tokensFrom_script hr, tokensFrom_closeParen,
    tokensFrom]
  simp

end Worksheet.Formula.Reference
