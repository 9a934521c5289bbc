import Worksheet.Proofs.Decimal.ReadBack
import Worksheet.Proofs.Script.LookupCalls

/-!
# Scripts that are a lookup, an operator and a whole number

* `Arithmetic` : the operators of sums, differences and products;
* `wholeLiteral`, `Literal.token` : the literal that a whole number in decimal is, however large it is, and its token;
* `apply_float`, `apply_text` : the operators on a number and on a text;
* `tokens?_arithmetic`, `ofTokens?_arithmetic`, `run_arithmetic` : the scripts.
-/

namespace Worksheet.Script

open Formula Lexer Text Decimal

/-! ## Operators -/

/-- The operators of sums, differences and products. -/
inductive Arithmetic
  | add | sub | mul
  deriving DecidableEq, Repr

namespace Arithmetic

def mark : Arithmetic → Char
  | add => '+'
  | sub => '-'
  | mul => '*'

def op : Arithmetic → BinaryOp
  | add => .add
  | sub => .sub
  | mul => .mul

def onFloats : Arithmetic → Float → Float → Float
  | add, x, y => x + y
  | sub, x, y => x - y
  | mul, x, y => x * y

end Arithmetic

/-! ## Whole numbers -/

def nearestFloat (n : Nat) : Float :=
  Numeral.toFloat ⟨false, n, 0⟩

/-- The literal that a whole number in decimal is: an integer, or the nearest float if it is not a word. -/
def wholeLiteral (n : Nat) : Literal :=
  if n < 2 ^ 63 then .int (Int64.ofInt n) else .float (nearestFloat n)

def Literal.token : Literal → Token
  | unit => .unit
  | bool b => .keyword (if b then .true_ else .false_)
  | int n => .int n
  | float x => .float x
  | char c => .char c
  | text s => .text s

theorem wholeToken?_eq (n : Nat) : wholeToken? false (Nat.toDigits 10 n) = some (wholeLiteral n).token := by
  by_cases hn : n < 2 ^ 63
  · rw [wholeToken?_toDigits hn, wholeLiteral, if_pos hn]
    rfl
  · have hbounds : ¬(-(2 ^ 63 : Int) ≤ n ∧ (n : Int) < 2 ^ 63) := by omega
    have hdigits := Numeral.unsigned?_whole (fun c => isDigit_of_mem_toDigits (n := n)) Nat.toDigits_ne_nil false
    have hfloat : floatToken? false (Nat.toDigits 10 n) = some (.float (nearestFloat n)) := by
      rw [floatToken?, hdigits, ofDigits_toDigits]
      rfl
    rw [wholeToken?, ofDigits_toDigits, wholeLiteral, if_neg hn]
    exact (if_neg hbounds).trans hfloat

theorem ofInt_eq_nearestFloat {n : Nat} (hn : n < 2 ^ 63) : ofInt n = nearestFloat n := by
  have hword : Numeral.toWord ⟨false, n, 0⟩ = nearest n 1 := by
    by_cases hzero : n = 0
    · subst hzero
      rw [Numeral.toWord_of_digits_zero rfl, nearest, Nat.zero_mul]
      decide
    · have hwidth : Numeral.width n ≤ 20 := (Numeral.width_le_iff n 20).mpr (by omega)
      rw [Numeral.toWord_eq_nearest hzero (by dsimp only; omega) (by dsimp only; omega)]
      simp
  rw [nearestFloat, Numeral.toFloat, hword, ofInt, ofFraction, decide_eq_false (by omega), Int.natAbs_natCast]

/-! ## Values -/

theorem apply_float (a : Arithmetic) (x : Float) (n : Nat) :
    a.op.apply (.float x) (wholeLiteral n).value = .ok (.float (a.onFloats x (nearestFloat n))) := by
  by_cases hn : n < 2 ^ 63
  · rw [wholeLiteral, if_pos hn, ← ofInt_eq_nearestFloat hn]
    have hint : (Int64.ofInt n).toInt = n := toInt_index hn
    show a.op.apply (.float x) (.int (Int64.ofInt n)) = _
    unfold BinaryOp.apply comparison
    dsimp only
    rw [hint]
    cases a <;> rfl
  · rw [wholeLiteral, if_neg hn]
    cases a <;> rfl

/-- A text is joined to what is added, and there is no other arithmetic on it. -/
theorem apply_text (a : Arithmetic) (s : String) (n : Nat) :
    a.op.apply (.text s) (wholeLiteral n).value =
      if a = .add then .ok (.text (s ++ (wholeLiteral n).value.joined)) else .error .unknownName := by
  unfold wholeLiteral
  by_cases hn : n < 2 ^ 63
  · rw [if_pos hn]
    cases a <;> rfl
  · rw [if_neg hn]
    cases a <;> rfl

theorem joined_wholeLiteral {n : Nat} (hn : n < 2 ^ 63) : (wholeLiteral n).value.joined = toString n := by
  rw [wholeLiteral, if_pos hn]
  show toString (Int64.ofInt n).toInt = toString n
  rw [toInt_index hn]
  rfl

/-! ## Scripts -/

/-- The script that applies an operator to the reply of a lookup and a whole number. -/
def arithmeticScript (a : Arithmetic) (r : Reference) (n : Nat) : List Char :=
  r.script ++ ' ' :: a.mark :: ' ' :: Nat.toDigits 10 n

theorem step_mark (a : Arithmetic) (rest : List Char) :
    step ⟨false, []⟩ (a.mark :: ' ' :: rest) =
      some (Lexer.Step.one ⟨false, []⟩ (.operator (.binary a.op)) (' ' :: rest)) := by
  cases a <;> rfl

theorem tokens?_arithmetic (a : Arithmetic) {r : Reference} (hr : r.InReach) (n : Nat) :
    tokens? (String.ofList (arithmeticScript a r n)) =
      some (r.tokens ++ [.operator (.binary a.op), (wholeLiteral n).token]) := by
  have hmark := tokensFrom_one [a.mark] (List.cons_ne_nil _ _) (step_mark a (Nat.toDigits 10 n)) r.tokens.reverse
  have hdigits := tokensFrom_digits true (.operator (.binary a.op) :: r.tokens.reverse) (wholeToken?_eq n)
    (Stops.nil _)
  rw [List.append_nil] at hdigits
  rw [tokens?, String.toList_ofList, arithmeticScript, Reference.tokensFrom_script hr, List.append_nil,
    tokensFrom_blank]
  refine hmark.trans ?_
  show tokensFrom 0 ⟨true, []⟩ _ _ = _
  rw [tokensFrom_blank, hdigits, tokensFrom]
  simp

theorem ofTokens?_arithmetic (a : Arithmetic) (r : Reference) (n : Nat) :
    Program.ofTokens? (r.tokens ++ [.operator (.binary a.op), (wholeLiteral n).token]) =
      some ⟨[], [.expr (.binary a.op r.call (.literal (wholeLiteral n)))]⟩ := by
  unfold wholeLiteral
  by_cases hn : n < 2 ^ 63
  · rw [if_pos hn]
    cases r <;> cases a <;> rfl
  · rw [if_neg hn]
    cases r <;> cases a <;> rfl

theorem simplify_binary (op : BinaryOp) (r : Reference) (l : Literal) :
    (Program.mk [] [.expr (.binary op r.call (.literal l))]).simplify =
      ⟨[], [.expr (.binary op r.call (.literal l))]⟩ := by
  cases r <;> rfl

theorem value_binary (op : BinaryOp) (l : Literal) {r : Reference} (hr : r.InReach) (room : Nat)
    (answer : Lookup → Reply) :
    ((Expr.binary op r.call (.literal l)).value bareMachine ⟨room + r.cost + 2, []⟩).run answer =
      match answer r.lookup with
      | .ok v => (Run.ofExcept (op.apply v l.value) ⟨room, []⟩).run answer
      | .error c => (.error (.fault (.thrown (.code c))), ⟨room + 1, []⟩) := by
  have hvalue := value_call hr (m := bareMachine) (fun _ _ => rfl) (room + 1) []
  rw [show room + 1 + r.cost = room + r.cost + 1 by omega] at hvalue
  rw [Expr.value]
  simp only [Run.bind, Run.ticked, Run.tick, Bind.bind, Dialogue.bind, Dialogue.run_bind, hvalue, run_ask]
  cases answer r.lookup with
  | error c => rfl
  | ok v => rfl

/-- A lookup, an operator and a whole number answer the operator on the reply and the number. -/
theorem run_arithmetic (a : Arithmetic) {r : Reference} (hr : r.InReach) {limit : Nat} (hlimit : Suffices limit)
    (answer : Lookup → Reply) (n : Nat) :
    (dialogue limit (String.ofList (arithmeticScript a r n))).run answer =
      (answer r.lookup).bind fun v => (a.op.apply v (wholeLiteral n).value).mapError Fault.code := by
  obtain ⟨room, hroom⟩ := hlimit.exists_room (Nat.add_le_add_right r.cost_le 2)
  rw [run_dialogue_expr hroom (parse?_of_tokens (tokens?_arithmetic a hr n) (ofTokens?_arithmetic a r n)) rfl
    (simplify_binary a.op r _), ← Nat.add_assoc, value_binary a.op _ hr]
  cases answer r.lookup with
  | error c => rfl
  | ok v =>
    show answered ((Run.ofExcept (a.op.apply v (wholeLiteral n).value) _).run answer).1 = Except.mapError _ _
    cases a.op.apply v (wholeLiteral n).value <;> rfl

end Worksheet.Script
