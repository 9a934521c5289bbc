import Worksheet.Proofs.Decimal.ReadBack
import Worksheet.Proofs.Evaluation.Agreement

/-!
# Formula cells seen from other cells

A range takes a formula cell for its value, a name takes it for its text. So an aggregate of the range over a cell
does not change when the cell's formula is replaced by what it shows, but other formulas do.

* `Grid.Answers`, `Grid.OnLookups` : cells whose formula answers a number, and what the formula asks for;
* `Grid.Answers.rangeValue` : such a cell in a range, if no range with formulas is asked for;
* `evaluate_aggregate_cell`, `evaluate_aggregate_name`, `outerStep_arithmetic` : what other cells make of a cell;
* `evaluate_replaced` : a formula cell beside the literal of its value;
* `AnswersAfter` : formulas that ask one question;
* `evaluateWithin_alternating` : a formula that asks for its own cell may answer otherwise at each level;
* `not_always_replaced` : names, and ranges in that case, tell a formula from its value.
-/

namespace Worksheet

open Script Formula

/-! ## Formula cells -/

/-- One step of the evaluation of a formula for a cell. -/
def outerStep (g : Grid) (o : Options) (c : Coord) : String → Result :=
  evaluateStep g o.maxOperations (nestedWithin g o o.maxDepth) (.root c)

theorem evaluate_eq (g : Grid) (o : Options) (c : Coord) (formula : String) :
    evaluate g o c formula = followChain (outerStep g o c) o.maxChain formula := by
  rw [evaluate, evaluateIn, Context.root, if_neg (Nat.not_lt_zero _), Nat.sub_zero, evaluateWithin_eq]
  rfl

/-- A cell that stores a formula, of which the evaluation answers a number. -/
structure Grid.Answers (g : Grid) (o : Options) (t : Coord) (formula : String) (x : Float) : Prop where
  addressable : t.Addressable
  inside : g.extent.contains t = true
  stored : g.get t = ofFormula formula
  answers : evaluateCell g o t = some (.ok (.number x))

/-- Whether this holds of all lookups that the evaluation of a formula for a cell asks for, including those of the
formulas that it goes on with. -/
def Grid.OnLookups (g : Grid) (o : Options) (t : Coord) (formula : String) (P : Lookup → Prop) : Prop :=
  ∀ next, Relation.ReflTransGen (Goes (outerStep g o t)) formula next →
    ∀ q ∈ (dialogue o.maxOperations (toScript next)).asked (answer g (nestedWithin g o o.maxDepth) (.root t)), P q

def Grid.replaced (g : Grid) (t : Coord) (x : Float) : Grid :=
  g.set t (CellValue.number x).display

section

variable {g : Grid} {o : Options} {t : Coord} {formula : String} {x : Float} (ht : g.Answers o t formula x)
  {p : Coord}
include ht

theorem Grid.Answers.chain : followChain (outerStep g o t) o.maxChain formula = .ok (.number x) := by
  have h := ht.answers
  rw [evaluateCell, ht.stored, formula?_ofFormula, Option.map_some] at h
  rw [← evaluate_eq]
  exact Option.some.inj h

theorem Grid.Answers.isFinite : x.isFinite = true := by
  obtain ⟨-, last, -, hlast⟩ := exists_endsAt_of_followChain ht.chain
  exact isFinite_of_evaluateStep hlast

/-- A range takes the cell for its value, at whatever depth that is computed. -/
theorem Grid.Answers.rangeValue (hplain : g.OnLookups o t formula g.IsPlain) (hdepth : 0 < o.maxDepth) :
    rangeValue g (.root p) (nestedWithin g o o.maxDepth) t = .ok (.number x) := by
  obtain ⟨levels, hlevels⟩ := Nat.exists_eq_succ_of_ne_zero (Nat.ne_of_gt hdepth)
  have hnested : nestedWithin g o o.maxDepth = evaluateWithin g o levels := by
    rw [hlevels]
    rfl
  have hstep : ∀ next, Relation.ReflTransGen (Goes (outerStep g o t)) formula next →
      evaluateStep g o.maxOperations (nestedWithin g o levels) ((Context.root p).nested t) next =
        outerStep g o t next :=
    fun next hnext => evaluateStep_congr rfl (hplain next hnext)
  rw [rangeValue_formula (by rw [ht.stored, formula?_ofFormula]), hnested, evaluateWithin_eq,
    followChain_congr hstep, ht.chain]

theorem Grid.Answers.inside_replaced : (g.replaced t x).extent.contains t = true :=
  ht.inside

theorem Grid.Answers.ofRaw_replaced : CellValue.ofRaw ((g.replaced t x).get t) = .number x := by
  rw [Grid.replaced, Grid.get_set, if_pos rfl, CellValue.ofRaw_display_number ht.isFinite]

end

theorem rangeValue_replaced (g : Grid) (t : Coord) (x : Float) (ctx : Context)
    (nested : Context → String → Result) :
    rangeValue (g.replaced t x) ctx nested t = .ok (.text (CellValue.number x).display) := by
  have hget : (g.replaced t x).get t = (CellValue.number x).display := by
    rw [Grid.replaced, Grid.get_set, if_pos rfl]
  rw [rangeValue_literal (by rw [hget, CellValue.formula?_text]), hget]

theorem resolveCell_ok {g : Grid} {t p : Coord} (hin : g.extent.contains t = true) (hp : t ≠ p) :
    resolveCell g t (.root p) = .ok (g.get t) := by
  unfold resolveCell
  rw [hin, Bool.not_true, if_neg Bool.false_ne_true]
  exact if_neg hp

section

variable {g : Grid} {o : Options} (hlimit : Suffices o.maxOperations) {t p : Coord} (ht : t.Addressable)
  (hin : g.extent.contains t = true)
include hlimit ht hin

theorem evaluate_aggregate_cell {v : CellValue} {x : Float}
    (hv : rangeValue g (.root p) (nestedWithin g o o.maxDepth) t = .ok v) (hx : numbers v.inRange = [x])
    (a : Aggregate) : evaluate g o p (aggregateOf a (t.name ++ ":" ++ t.name)) = aggregateResult a [x] := by
  have hnumbers : rangeNumbers [[v]] = [x] := by
    rw [← hx]
    simp [rangeNumbers]
  have hstep := evaluateStep_aggregate_range (g := g) hlimit (nestedWithin g o o.maxDepth) (.root p) a ht ht
  rw [resolveRange_cell hin, hv] at hstep
  rw [evaluate_eq]
  refine followChain_of_float (hstep.trans ?_) _
  show (a.ofNumbers (rangeNumbers [[v]])).bind _ = _
  rw [hnumbers]

variable (hp : t ≠ p)
include hp

theorem evaluate_aggregate_name {xs : List Float} (hxs : numbers (CellValue.ofRaw (g.get t)).toScript = xs)
    (a : Aggregate) : evaluate g o p (aggregateOf a t.name) = aggregateResult a xs := by
  have hstep := evaluateStep_aggregate_name (g := g) hlimit (nestedWithin g o o.maxDepth) (.root p) a ht
  rw [resolveCell_ok hin hp] at hstep
  rw [evaluate_eq]
  refine followChain_of_float (hstep.trans ?_) _
  show (a.ofNumbers (numbers (CellValue.ofRaw (g.get t)).toScript)).bind _ = _
  rw [hxs]

theorem outerStep_arithmetic (a : Arithmetic) (n : Nat) :
    outerStep g o p (arithmeticOf a t.name n) =
      ((a.op.apply (CellValue.ofRaw (g.get t)).toScript (wholeLiteral n).value).mapError Fault.code).bind
        Value.toCell := by
  have hstep := evaluateStep_arithmetic (g := g) hlimit (nestedWithin g o o.maxDepth) (.root p) a ht n
  rw [resolveCell_ok hin hp] at hstep
  exact hstep

theorem evaluate_arithmetic_number {x : Float} (hx : CellValue.ofRaw (g.get t) = .number x) (a : Arithmetic)
    (n : Nat) : evaluate g o p (arithmeticOf a t.name n) = (Value.float (a.onFloats x (nearestFloat n))).toCell := by
  have hstep := outerStep_arithmetic hlimit ht hin hp a n
  rw [hx] at hstep
  rw [evaluate_eq]
  refine followChain_of_float (y := .ok _) (hstep.trans ?_) _
  show (Except.mapError Fault.code (a.op.apply (.float x) _)).bind _ = _
  rw [apply_float]
  rfl

theorem evaluate_arithmetic_text {s : String} (hs : CellValue.ofRaw (g.get t) = .text s) {a : Arithmetic}
    (ha : a ≠ .add) (n : Nat) : evaluate g o p (arithmeticOf a t.name n) = .error .name := by
  have hstep := outerStep_arithmetic hlimit ht hin hp a n
  rw [hs] at hstep
  rw [evaluate_eq]
  refine followChain_of_float (y := .error .name) (hstep.trans ?_) _
  show (Except.mapError Fault.code (a.op.apply (.text s) _)).bind _ = _
  rw [apply_text, if_neg ha]
  rfl

/-- A number that is added to a formula is joined to it, and what comes of that is evaluated next. -/
theorem evaluate_add_formula {formula : String} (hformula : g.get t = ofFormula formula) {more : Nat}
    (hmore : o.maxChain = more + 1) (n : Nat) :
    evaluate g o p (arithmeticOf .add t.name n) =
      followChain (outerStep g o p) more (formula ++ (wholeLiteral n).value.joined) := by
  have hstep := outerStep_arithmetic hlimit ht hin hp .add n
  rw [hformula, CellValue.ofRaw_ofFormula] at hstep
  have htext : outerStep g o p (arithmeticOf .add t.name n) =
      .ok (.text (ofFormula (formula ++ (wholeLiteral n).value.joined))) := by
    refine hstep.trans ?_
    show (Except.mapError Fault.code (Arithmetic.add.op.apply (.text _) _)).bind _ = _
    rw [apply_text, if_pos rfl, ofFormula, ofFormula, ← String.append_assoc]
    rfl
  rw [evaluate_eq, hmore, followChain, htext]
  simp only [CellValue.display, formula?_ofFormula]

end

/-- A formula cell seen from another cell, beside the literal that its value shows as. Aggregates of the range over
the cell do not tell the two apart, and for the literal the name alone does as well. The name of the formula cell
stands for its text: its aggregates count no number, it has no differences and products, and a number that is added
to it is joined to the formula. -/
theorem evaluate_replaced {g : Grid} {o : Options} (hdepth : 0 < o.maxDepth) (hlimit : Suffices o.maxOperations)
    {t p : Coord} (hp : t ≠ p) {formula : String} {x : Float} (ht : g.Answers o t formula x)
    (hplain : g.OnLookups o t formula g.IsPlain) :
    (∀ a : Aggregate,
      evaluate g o p (aggregateOf a (t.name ++ ":" ++ t.name)) = aggregateResult a [x] ∧
      evaluate (g.replaced t x) o p (aggregateOf a (t.name ++ ":" ++ t.name)) = aggregateResult a [x] ∧
      evaluate (g.replaced t x) o p (aggregateOf a t.name) = aggregateResult a [x] ∧
      evaluate g o p (aggregateOf a t.name) = aggregateResult a []) ∧
    ∀ n : Nat,
      (∀ a : Arithmetic, evaluate (g.replaced t x) o p (arithmeticOf a t.name n) =
        (Value.float (a.onFloats x (nearestFloat n))).toCell) ∧
      (∀ a : Arithmetic, a ≠ .add → evaluate g o p (arithmeticOf a t.name n) = .error .name) ∧
      ∀ more, o.maxChain = more + 1 → evaluate g o p (arithmeticOf .add t.name n) =
        followChain (outerStep g o p) more (formula ++ (wholeLiteral n).value.joined) := by
  have hcell := ht.addressable
  have hin := ht.inside_replaced
  have htext : CellValue.ofRaw (g.get t) = .text (ofFormula formula) := by
    rw [ht.stored, CellValue.ofRaw_ofFormula]
  have hnumber := ht.ofRaw_replaced
  refine ⟨fun a => ⟨?_, ?_, ?_, ?_⟩, fun n => ⟨fun a => ?_, fun a ha => ?_, fun more hmore => ?_⟩⟩
  · exact evaluate_aggregate_cell hlimit hcell ht.inside (ht.rangeValue hplain hdepth) rfl a
  · refine evaluate_aggregate_cell hlimit hcell hin (rangeValue_replaced g t x _ _) ?_ a
    rw [CellValue.inRange, CellValue.ofRaw_display_number ht.isFinite]
    rfl
  · exact evaluate_aggregate_name hlimit hcell hin hp (by rw [hnumber]; rfl) a
  · exact evaluate_aggregate_name hlimit hcell ht.inside hp (by rw [htext]; rfl) a
  · exact evaluate_arithmetic_number hlimit hcell hin hp hnumber a n
  · exact evaluate_arithmetic_text hlimit hcell ht.inside hp htext ha n
  · exact evaluate_add_formula hlimit hcell ht.inside hp ht.stored hmore n

/-- The sheet in which `A1` alone is set, to a formula. -/
def Grid.single (formula : String) : Grid :=
  (Grid.new ⟨3, 3⟩).set ⟨1, 1⟩ (ofFormula formula)

theorem Grid.single_get (formula : String) : (Grid.single formula).get ⟨1, 1⟩ = ofFormula formula := by
  rw [Grid.single, Grid.get_set, if_pos rfl]

theorem product_done : dialogue Options.default.maxOperations (toScript "2*3") = .done (.ok (.int 6)) := by
  rfl

theorem outerStep_product (g : Grid) (c : Coord) :
    outerStep g Options.default c "2*3" = .ok (.number (Decimal.ofInt 6)) := by
  rw [outerStep, evaluateStep_eq_bind, product_done]
  rfl

theorem answers_product : (Grid.single "2*3").Answers Options.default ⟨1, 1⟩ "2*3" (Decimal.ofInt 6) where
  addressable := Coord.addressable_first
  inside := by decide
  stored := Grid.single_get _
  answers := by
    rw [evaluateCell, Grid.single_get, formula?_ofFormula, Option.map_some, evaluate_eq, followChain,
      outerStep_product]
    simp only [CellValue.formula?_text]

theorem onLookups_product (P : Lookup → Prop) : (Grid.single "2*3").OnLookups Options.default ⟨1, 1⟩ "2*3" P := by
  intro next hnext q hq
  rw [eq_of_reached (outerStep_product _ _) hnext, product_done] at hq
  exact absurd hq List.not_mem_nil

theorem evaluate_replaced_product :
    evaluate (Grid.single "2*3") Options.default ⟨2, 1⟩ (aggregateOf .sum "A1:A1") =
        aggregateResult .sum [Decimal.ofInt 6] ∧
      evaluate (Grid.single "2*3") Options.default ⟨2, 1⟩ (arithmeticOf .sub "A1" 5) = .error .name ∧
      evaluate (Grid.single "2*3") Options.default ⟨2, 1⟩ (arithmeticOf .add "A1" 5) =
        followChain (outerStep (Grid.single "2*3") Options.default ⟨2, 1⟩) 999 ("2*3" ++ toString 5) := by
  have h := evaluate_replaced (o := Options.default) (p := ⟨2, 1⟩) (by decide) suffices_default (by decide)
    answers_product (onLookups_product _)
  rw [Coord.name_first] at h
  refine ⟨(h.1 .sum).1, (h.2 5).2.1 .sub (by decide), ?_⟩
  rw [(h.2 5).2.2 999 rfl, joined_wholeLiteral (by decide)]

/-! ## Formulas that ask one question -/

/-- Whether a result is a number, bit for bit. -/
def isNumber (x : Float) : Result → Bool
  | .ok (.number y) => y.toBits == x.toBits
  | _ => false

theorem eq_of_isNumber {x : Float} {r : Result} (h : isNumber x r = true) : r = .ok (.number x) := by
  unfold isNumber at h
  split at h
  · rename_i y
    have hbits : y.toBits = x.toBits := by simpa using h
    rw [← Decimal.ofBits_toBits y, hbits, Decimal.ofBits_toBits]
  · exact absurd h Bool.false_ne_true

/-- Whether a formula asks one question alone, and answers a number when it gets such a reply. -/
structure AnswersAfter (limit : Nat) (formula : String) (q : Lookup) (reply : Reply) (x : Float) : Prop where
  asked : (dialogue limit (toScript formula)).asked (fun _ => reply) = [q]
  number : isNumber x (((dialogue limit (toScript formula)).run fun _ => reply).bind Value.toCell) = true

instance (limit : Nat) (formula : String) (q : Lookup) (reply : Reply) (x : Float) :
    Decidable (AnswersAfter limit formula q reply x) :=
  decidable_of_iff
    ((dialogue limit (toScript formula)).asked (fun _ => reply) = [q] ∧
      isNumber x (((dialogue limit (toScript formula)).run fun _ => reply).bind Value.toCell) = true)
    ⟨fun h => ⟨h.1, h.2⟩, fun h => ⟨h.asked, h.number⟩⟩

section

variable {limit : Nat} {formula : String} {q : Lookup} {reply : Reply} {x : Float}
  (h : AnswersAfter limit formula q reply x) {g : Grid} {nested : Context → String → Result} {ctx : Context}
  (hanswer : answer g nested ctx q = reply)
include h hanswer

theorem AnswersAfter.agree :
    ∀ p ∈ (dialogue limit (toScript formula)).asked fun _ => reply, answer g nested ctx p = reply := by
  intro p hp
  rw [h.asked, List.mem_singleton] at hp
  rw [hp, hanswer]

theorem AnswersAfter.asked_answer : (dialogue limit (toScript formula)).asked (answer g nested ctx) = [q] := by
  rw [Dialogue.asked_congr (h.agree hanswer), h.asked]

theorem AnswersAfter.evaluateStep_eq : evaluateStep g limit nested ctx formula = .ok (.number x) := by
  rw [evaluateStep_eq_bind, Dialogue.run_congr (h.agree hanswer)]
  exact eq_of_isNumber h.number

end

def cellReply (r : Result) : Reply :=
  r.map fun v => .array [.array [v.inRange]]

theorem answer_single {formula : String} {nested : Context → String → Result} {ctx : Context} {r : Result}
    (hnested : nested (ctx.nested ⟨1, 1⟩) formula = r) :
    answer (Grid.single formula) nested ctx (.range 0 0 0 0) = cellReply r := by
  have hin : (Grid.single formula).extent.contains ⟨1, 1⟩ = true := by
    show Extent.contains ⟨3, 3⟩ ⟨1, 1⟩ = true
    decide
  have hvalue : rangeValue (Grid.single formula) ctx nested ⟨1, 1⟩ = r := by
    rw [rangeValue_formula (by rw [Grid.single_get, formula?_ofFormula]), hnested]
  show Except.map _ (resolveRange (m := Id) (Grid.single formula) ⟨1, 1⟩ ⟨1, 1⟩ ctx nested).run = _
  rw [resolveRange_cell hin, hvalue]
  cases r <;> rfl

/-! ## A range over the cell itself -/

/-- One less the range over `A1`, and zero where ranges cannot be nested. -/
def alternating : String :=
  "let x = 0; try \x7b x = 1 - SUM(A1:A1); \x7d catch \x7b \x7d x"

def Alternates (r : Result) (x : Float) : Prop :=
  AnswersAfter Options.default.maxOperations alternating (.range 0 0 0 0) (cellReply r) x

-- the replies in one statement, so that the formula is read once
theorem alternates_replies :
    Alternates (.error .recursionLimit) (Decimal.ofInt 0) ∧
      Alternates (.ok (.number (Decimal.ofInt 0))) (Decimal.ofInt 1) ∧
      Alternates (.ok (.number (Decimal.ofInt 1))) (Decimal.ofInt 0) := by
  unfold Alternates
  decide +kernel

theorem alternates_error : Alternates (.error .recursionLimit) (Decimal.ofInt 0) :=
  alternates_replies.1

theorem alternates_zero : Alternates (.ok (.number (Decimal.ofInt 0))) (Decimal.ofInt 1) :=
  alternates_replies.2.1

theorem alternates_one : Alternates (.ok (.number (Decimal.ofInt 1))) (Decimal.ofInt 0) :=
  alternates_replies.2.2

theorem Alternates.evaluateWithin_eq {levels : Nat} {r : Result} {x : Float} (h : Alternates r x)
    (hnested : ∀ ctx, nestedWithin (Grid.single alternating) Options.default levels ctx alternating = r)
    (ctx : Context) :
    evaluateWithin (Grid.single alternating) Options.default levels ctx alternating = .ok (.number x) := by
  rw [Worksheet.evaluateWithin_eq, followChain, h.evaluateStep_eq (answer_single (hnested _))]
  simp only [CellValue.formula?_text]

/-- The levels answer zero and one in turn. -/
theorem evaluateWithin_alternating (k : Nat) :
    (∀ ctx, evaluateWithin (Grid.single alternating) Options.default (2 * k) ctx alternating =
        .ok (.number (Decimal.ofInt 0))) ∧
      ∀ ctx, evaluateWithin (Grid.single alternating) Options.default (2 * k + 1) ctx alternating =
        .ok (.number (Decimal.ofInt 1)) := by
  have hodd : ∀ k, (∀ ctx, evaluateWithin (Grid.single alternating) Options.default (2 * k) ctx alternating =
      .ok (.number (Decimal.ofInt 0))) → ∀ ctx,
        evaluateWithin (Grid.single alternating) Options.default (2 * k + 1) ctx alternating =
          .ok (.number (Decimal.ofInt 1)) :=
    fun k heven => alternates_zero.evaluateWithin_eq fun ctx => by rw [nestedWithin_succ, heven]
  -- two levels at a time: one level further down the other number is answered
  induction k with
  | zero =>
    have heven : ∀ ctx, evaluateWithin (Grid.single alternating) Options.default (2 * 0) ctx alternating =
        .ok (.number (Decimal.ofInt 0)) :=
      alternates_error.evaluateWithin_eq fun _ => rfl
    exact ⟨heven, hodd 0 heven⟩
  | succ k ih =>
    have heven : ∀ ctx, evaluateWithin (Grid.single alternating) Options.default (2 * (k + 1)) ctx alternating =
        .ok (.number (Decimal.ofInt 0)) := by
      rw [show 2 * (k + 1) = 2 * k + 1 + 1 by omega]
      exact alternates_one.evaluateWithin_eq fun ctx => by rw [nestedWithin_succ, ih.2]
    exact ⟨heven, hodd (k + 1) heven⟩

theorem answers_alternating :
    (Grid.single alternating).Answers Options.default ⟨1, 1⟩ alternating (Decimal.ofInt 0) where
  addressable := Coord.addressable_first
  inside := by decide
  stored := Grid.single_get _
  answers := by
    rw [evaluateCell_ofFormula (Grid.single_get _), show Options.default.maxDepth = 2 * 5 from rfl,
      (evaluateWithin_alternating 5).1]

theorem nestedWithin_alternating (ctx : Context) :
    nestedWithin (Grid.single alternating) Options.default Options.default.maxDepth ctx alternating =
      .ok (.number (Decimal.ofInt 1)) := by
  rw [show Options.default.maxDepth = 2 * 4 + 1 + 1 from rfl, nestedWithin_succ, (evaluateWithin_alternating 4).2]

def Grid.ReadsOnly (g : Grid) (t : Coord) : Lookup → Prop
  | .cell column row => CellRef.toCoord ⟨column, row⟩ = t
  | .range column₁ row₁ column₂ row₂ =>
    ∀ d, g.extent.Clips (CellRef.toCoord ⟨column₁, row₁⟩) (CellRef.toCoord ⟨column₂, row₂⟩) d → d = t
  | .negative => True

theorem onLookups_alternating : (Grid.single alternating).OnLookups Options.default ⟨1, 1⟩ alternating
    ((Grid.single alternating).ReadsOnly ⟨1, 1⟩) := by
  have hanswer := answer_single (nestedWithin_alternating ((Context.root ⟨1, 1⟩).nested ⟨1, 1⟩))
  intro next hnext q hq
  rw [eq_of_reached (alternates_one.evaluateStep_eq hanswer) hnext, alternates_one.asked_answer hanswer,
    List.mem_singleton] at hq
  rw [hq]
  rintro ⟨x, y⟩ ⟨hleft, hright, htop, hbottom, -⟩
  dsimp only [CellRef.toCoord] at hleft hright htop hbottom
  rw [Coord.mk.injEq]
  omega

/-! ## Telling a formula and its value apart -/

/-- Whether a formula for `B1` answers otherwise when a number takes the place of the formula in `A1`. -/
def TellsApart (formula : String) (x : Float) (other : String) : Prop :=
  evaluate (Grid.single formula) Options.default ⟨2, 1⟩ other ≠
    evaluate ((Grid.single formula).replaced ⟨1, 1⟩ x) Options.default ⟨2, 1⟩ other

theorem tellsApart_difference : TellsApart "2*3" (Decimal.ofInt 6) (arithmeticOf .sub "A1" 5) := by
  have hproduct := answers_product
  have htext : CellValue.ofRaw ((Grid.single "2*3").get ⟨1, 1⟩) = .text (ofFormula "2*3") := by
    rw [Grid.single_get, CellValue.ofRaw_ofFormula]
  rw [TellsApart, ← Coord.name_first,
    evaluate_arithmetic_text suffices_default Coord.addressable_first hproduct.inside (by decide) htext (by decide),
    evaluate_arithmetic_number suffices_default Coord.addressable_first hproduct.inside_replaced (by decide)
      hproduct.ofRaw_replaced]
  intro h
  rcases toCell_float_cases (Arithmetic.sub.onFloats (Decimal.ofInt 6) (nearestFloat 5)) with hnum | hzero | hok
  · exact absurd (h.trans hnum) (by simp)
  · exact absurd (h.trans hzero) (by simp)
  · exact absurd (h.trans hok) (by simp)

theorem tellsApart_count : TellsApart "2*3" (Decimal.ofInt 6) (aggregateOf .count "A1") := by
  have hproduct := answers_product
  have htext : numbers (CellValue.ofRaw ((Grid.single "2*3").get ⟨1, 1⟩)).toScript = [] := by
    rw [Grid.single_get, CellValue.ofRaw_ofFormula]
    rfl
  have hnumber : numbers (CellValue.ofRaw (((Grid.single "2*3").replaced ⟨1, 1⟩ (Decimal.ofInt 6)).get
      ⟨1, 1⟩)).toScript = [Decimal.ofInt 6] := by
    rw [hproduct.ofRaw_replaced]
    rfl
  rw [TellsApart, ← Coord.name_first,
    evaluate_aggregate_name suffices_default Coord.addressable_first hproduct.inside (by decide) htext,
    evaluate_aggregate_name suffices_default Coord.addressable_first hproduct.inside_replaced (by decide) hnumber]
  intro h
  exact absurd (congrArg (isNumber (Decimal.ofInt 0)) h) (by decide +kernel)

theorem tellsApart_sum : TellsApart alternating (Decimal.ofInt 0) (aggregateOf .sum "A1:A1") := by
  have hvalue : rangeValue (Grid.single alternating) (.root ⟨2, 1⟩)
      (nestedWithin (Grid.single alternating) Options.default Options.default.maxDepth) ⟨1, 1⟩ =
        .ok (.number (Decimal.ofInt 1)) := by
    rw [rangeValue_formula (by rw [Grid.single_get, formula?_ofFormula]), nestedWithin_alternating]
  have hliteral : numbers (CellValue.text (CellValue.number (Decimal.ofInt 0)).display).inRange =
      [Decimal.ofInt 0] := by
    rw [CellValue.inRange, CellValue.ofRaw_display_number answers_alternating.isFinite]
    rfl
  have hrange : "A1:A1" = (⟨1, 1⟩ : Coord).name ++ ":" ++ (⟨1, 1⟩ : Coord).name := by
    rw [Coord.name_first]
    rfl
  rw [TellsApart, hrange,
    evaluate_aggregate_cell suffices_default Coord.addressable_first answers_alternating.inside hvalue rfl,
    evaluate_aggregate_cell suffices_default Coord.addressable_first answers_alternating.inside_replaced
      (rangeValue_replaced _ _ _ _ _) hliteral]
  intro h
  exact absurd (congrArg (isNumber (Decimal.ofInt 0)) h) (by decide +kernel)

/-- Names tell a formula from its value, and so does a range if the formula asks for the range over its own cell. -/
theorem not_always_replaced :
    ((Grid.single "2*3").Answers Options.default ⟨1, 1⟩ "2*3" (Decimal.ofInt 6) ∧
      (Grid.single "2*3").OnLookups Options.default ⟨1, 1⟩ "2*3" ((Grid.single "2*3").ReadsOnly ⟨1, 1⟩) ∧
      TellsApart "2*3" (Decimal.ofInt 6) (arithmeticOf .sub "A1" 5) ∧
      TellsApart "2*3" (Decimal.ofInt 6) (aggregateOf .count "A1")) ∧
    (Grid.single alternating).Answers Options.default ⟨1, 1⟩ alternating (Decimal.ofInt 0) ∧
      (Grid.single alternating).OnLookups Options.default ⟨1, 1⟩ alternating
        ((Grid.single alternating).ReadsOnly ⟨1, 1⟩) ∧
      TellsApart alternating (Decimal.ofInt 0) (aggregateOf .sum "A1:A1") :=
  ⟨⟨answers_product, onLookups_product _, tellsApart_difference, tellsApart_count⟩, answers_alternating,
    onLookups_alternating, tellsApart_sum⟩

end Worksheet
