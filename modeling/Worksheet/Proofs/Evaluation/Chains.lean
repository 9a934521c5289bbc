import Mathlib.Logic.Relation
import Worksheet.Proofs.Evaluation.Levels

/-!
# Chains of formulas

Where the value of a formula shows as a formula, that one is evaluated next, for the same cell. So a formula has a
sequence of formulas after it, which ends with the first one whose result is an error or shows no formula, or has
no end. A chain with a limit takes the results of this sequence one by one, up to its end or up to the limit.

* `continuation?`, `formulaAfter`, `EndsAt` : the formulas that come one after the other, and where they end;
* `EndsAt.followChain_eq`, `followChain_of_never` : what a chain answers, with an end and without one;
* `followChain_mono` : a higher limit changes nothing but the failure of the limit;
* `Goes`, `followChain_congr` : only the formulas that an evaluation goes through matter;
* `followChainIn`, `followChainIn_telling` : a chain in which something is done at each step;
* `traceChain` : the steps that a chain takes; `traceChain_eq`, `getElem?_chainVisits` say which these are;
* `evaluateIn_chain` : the evaluator within its levels.
-/

namespace Worksheet

def continuation? : Result → Option String
  | .ok v => formula? v.display
  | .error _ => none

/-- The formula that is evaluated after so many others, if the results of all of these show formulas. -/
def formulaAfter (step : String → Result) (first : String) : Nat → Option String
  | 0 => some first
  | k + 1 => (formulaAfter step first k).bind fun formula => continuation? (step formula)

/-- Whether the formulas end with this one, after so many others. -/
structure EndsAt (step : String → Result) (first : String) (k : Nat) (last : String) : Prop where
  reached : formulaAfter step first k = some last
  stops : continuation? (step last) = none

section

variable {step : String → Result} {first next : String}

/-! ## The formulas that come one after the other -/

theorem formulaAfter_of_none (h : continuation? (step first) = none) (k : Nat) :
    formulaAfter step first (k + 1) = none := by
  induction k with
  | zero => exact h
  | succ k ih => rw [formulaAfter, ih, Option.bind_none]

theorem formulaAfter_of_some (h : continuation? (step first) = some next) (k : Nat) :
    formulaAfter step first (k + 1) = formulaAfter step next k := by
  induction k with
  | zero => exact h
  | succ k ih => rw [formulaAfter, ih, formulaAfter]

theorem endsAt_zero (h : continuation? (step first) = none) : EndsAt step first 0 first :=
  ⟨rfl, h⟩

theorem not_endsAt_zero (h : continuation? (step first) = some next) (last : String) : ¬EndsAt step first 0 last := by
  rintro ⟨hreached, hstops⟩
  obtain rfl : first = last := Option.some.inj hreached
  rw [h] at hstops
  cases hstops

theorem EndsAt.eq_zero (h : continuation? (step first) = none) {k : Nat} {last : String}
    (hend : EndsAt step first k last) : k = 0 := by
  cases k with
  | zero => rfl
  | succ k =>
    have hreached := hend.reached
    rw [formulaAfter_of_none h] at hreached
    cases hreached

theorem endsAt_succ_iff (h : continuation? (step first) = some next) {k : Nat} {last : String} :
    EndsAt step first (k + 1) last ↔ EndsAt step next k last := by
  constructor
  · rintro ⟨hreached, hstops⟩
    exact ⟨(formulaAfter_of_some h k).symm.trans hreached, hstops⟩
  · rintro ⟨hreached, hstops⟩
    exact ⟨(formulaAfter_of_some h k).trans hreached, hstops⟩

theorem not_endsAt_of_loop (h : continuation? (step first) = some first) (k : Nat) (last : String) :
    ¬EndsAt step first k last := by
  induction k with
  | zero => exact not_endsAt_zero h last
  | succ k ih => exact fun hend => ih ((endsAt_succ_iff h).mp hend)

/-! ## Chains with a limit -/

theorem followChain_of_none (h : continuation? (step first) = none) (more : Nat) :
    followChain step more first = step first := by
  rw [followChain]
  cases hstep : step first with
  | error c => rfl
  | ok v =>
    rw [hstep, continuation?] at h
    simp only [h]

theorem followChain_of_some (h : continuation? (step first) = some next) (more : Nat) :
    followChain step more first =
      match more with
      | 0 => .error .recursionLimit
      | more + 1 => followChain step more next := by
  rw [followChain]
  cases hstep : step first with
  | error c =>
    rw [hstep] at h
    cases h
  | ok v =>
    rw [hstep, continuation?] at h
    cases more <;> simp only [h]

/-- A chain answers the result of its last formula, unless more formulas come before that one than the limit. -/
theorem EndsAt.followChain_eq {k : Nat} {last : String} (h : EndsAt step first k last) (more : Nat) :
    followChain step more first = if k ≤ more then step last else .error .recursionLimit := by
  induction k generalizing first more with
  | zero =>
    obtain rfl : first = last := Option.some.inj h.reached
    rw [followChain_of_none h.stops, if_pos (Nat.zero_le more)]
  | succ k ih =>
    cases hnext : continuation? (step first) with
    | none => exact absurd (h.eq_zero hnext) (Nat.succ_ne_zero k)
    | some next =>
      rw [followChain_of_some hnext]
      cases more with
      | zero => exact (if_neg (Nat.not_succ_le_zero k)).symm
      | succ more =>
        dsimp only
        simp only [ih ((endsAt_succ_iff hnext).mp h) more, Nat.succ_le_succ_iff]

/-- A chain without an end runs into its limit. -/
theorem followChain_of_never (h : ∀ k last, ¬EndsAt step first k last) (more : Nat) :
    followChain step more first = .error .recursionLimit := by
  induction more generalizing first with
  | zero =>
    cases hnext : continuation? (step first) with
    | none => exact absurd (endsAt_zero hnext) (h 0 first)
    | some next => exact followChain_of_some hnext 0
  | succ more ih =>
    cases hnext : continuation? (step first) with
    | none => exact absurd (endsAt_zero hnext) (h 0 first)
    | some next =>
      rw [followChain_of_some hnext]
      exact ih fun k last hend => h (k + 1) last ((endsAt_succ_iff hnext).mpr hend)

/-- What a chain answers, other than the failure of its limit, it answers with every higher limit. -/
theorem followChain_mono {less more : Nat} (hless : less ≤ more)
    (h : followChain step less first ≠ .error .recursionLimit) :
    followChain step more first = followChain step less first := by
  by_cases hend : ∃ k last, EndsAt step first k last
  · obtain ⟨k, last, hend⟩ := hend
    rw [hend.followChain_eq] at h ⊢
    rw [hend.followChain_eq]
    by_cases hk : k ≤ less
    · rw [if_pos hk, if_pos (Nat.le_trans hk hless)]
    · exact absurd (if_neg hk) h
  · push Not at hend
    exact absurd (followChain_of_never hend less) h

theorem exists_endsAt_of_followChain {more : Nat} {v : CellValue} (h : followChain step more first = .ok v) :
    ∃ k last, EndsAt step first k last ∧ step last = .ok v := by
  by_cases hend : ∃ k last, EndsAt step first k last
  · obtain ⟨k, last, hend⟩ := hend
    rw [hend.followChain_eq] at h
    by_cases hk : k ≤ more
    · exact ⟨k, last, hend, (if_pos hk).symm.trans h⟩
    · rw [if_neg hk] at h
      cases h
  · push Not at hend
    rw [followChain_of_never hend] at h
    cases h

/-! ## Formulas that a chain goes through -/

/-- Whether the evaluation of a formula goes on with another formula. -/
def Goes (step : String → Result) (formula next : String) : Prop :=
  ∃ v, step formula = .ok v ∧ formula? v.display = some next

theorem goes_of_continuation? (h : continuation? (step first) = some next) : Goes step first next := by
  cases hstep : step first with
  | error c =>
    rw [hstep] at h
    cases h
  | ok v =>
    rw [hstep, continuation?] at h
    exact ⟨v, hstep, h⟩

theorem followChain_congr {step' : String → Result}
    (h : ∀ next, Relation.ReflTransGen (Goes step) first next → step' next = step next) (more : Nat) :
    followChain step' more first = followChain step more first := by
  induction more generalizing first with
  | zero => rw [followChain, followChain, h first .refl]
  | succ more ih =>
    cases hnext : continuation? (step first) with
    | none => rw [followChain_of_none hnext, followChain_of_none (by rw [h first .refl, hnext]), h first .refl]
    | some next =>
      rw [followChain_of_some hnext, followChain_of_some (by rw [h first .refl, hnext])]
      exact ih fun last hlast => h last (.head (goes_of_continuation? hnext) hlast)

end

/-! ## The steps that a chain takes -/

/-- A chain in which each formula is evaluated in a context, and with effects. -/
def followChainIn {m : Type → Type} [Monad m] (step : Context → String → m Result) (ctx : Context) :
    Nat → String → m Result
  | more, formula => do
    let result ← step ctx formula
    match continuation? result with
    | none => return result
    | some next =>
      match more with
      | 0 => return .error .recursionLimit
      | more + 1 => followChainIn step ctx more next

section

variable {step : Context → String → Result} {ctx : Context} {first next : String}

/-- The steps of a chain. -/
def chainVisits (step : Context → String → Result) (ctx : Context) (more : Nat) (formula : String) : List Visit :=
  ⟨ctx, formula, step ctx formula⟩ ::
    match continuation? (step ctx formula) with
    | none => []
    | some next =>
      match more with
      | 0 => []
      | more + 1 => chainVisits step ctx more next

theorem chainVisits_of_none (h : continuation? (step ctx first) = none) (more : Nat) :
    chainVisits step ctx more first = [⟨ctx, first, step ctx first⟩] := by
  rw [chainVisits]
  simp only [h]

theorem chainVisits_of_some (h : continuation? (step ctx first) = some next) (more : Nat) :
    chainVisits step ctx more first = ⟨ctx, first, step ctx first⟩ ::
      match more with
      | 0 => []
      | more + 1 => chainVisits step ctx more next := by
  rw [chainVisits]
  simp only [h]

def telling {m : Type → Type} [Monad m] (tell : Visit → m Unit) (step : Context → String → Result) (ctx : Context)
    (formula : String) : m Result := do
  tell ⟨ctx, formula, step ctx formula⟩
  return step ctx formula

/-- Whatever is done at each step, a chain does it for these steps in this order, and answers the same. -/
theorem followChainIn_telling {m : Type → Type} [Monad m] [LawfulMonad m] (tell : Visit → m Unit) (more : Nat) :
    followChainIn (telling tell step) ctx more first = do
      (chainVisits step ctx more first).forM tell
      return followChain (step ctx) more first := by
  induction more generalizing first with
  | zero =>
    rw [followChainIn, telling, bind_assoc, pure_bind]
    cases hnext : continuation? (step ctx first) with
    | none => simp [followChain_of_none hnext, chainVisits_of_none hnext]
    | some next => simp [followChain_of_some hnext, chainVisits_of_some hnext]
  | succ more ih =>
    rw [followChainIn, telling, bind_assoc, pure_bind]
    cases hnext : continuation? (step ctx first) with
    | none => simp [followChain_of_none hnext, chainVisits_of_none hnext]
    | some next => simp [followChain_of_some hnext, chainVisits_of_some hnext, ih]

theorem followChainIn_id (more : Nat) :
    followChainIn (m := Id) step ctx more first = followChain (step ctx) more first :=
  followChainIn_telling (m := Id) (fun _ => ()) more

theorem run_forM_modify (visits earlier : List Visit) :
    (visits.forM fun v => modify (v :: ·) : StateM (List Visit) Unit).run earlier =
      ((), visits.reverse ++ earlier) := by
  induction visits generalizing earlier with
  | nil => rfl
  | cons v visits ih =>
    rw [List.reverse_cons, List.append_assoc, List.singleton_append]
    exact ih (v :: earlier)

/-- What a chain answers, and the steps that it takes in order. -/
def traceChain (step : Context → String → Result) (ctx : Context) (more : Nat) (first : String) :
    Result × List Visit :=
  let (result, visits) := (followChainIn (recording step) ctx more first).run []
  (result, visits.reverse)

theorem traceChain_eq (more : Nat) :
    traceChain step ctx more first = (followChain (step ctx) more first, chainVisits step ctx more first) := by
  have hrecording : recording step = telling (fun v => modify (v :: ·)) step := rfl
  have hrun : (followChainIn (recording step) ctx more first).run [] =
      (followChain (step ctx) more first, (chainVisits step ctx more first).reverse ++ []) := by
    rw [hrecording, followChainIn_telling, StateT.run_bind, run_forM_modify]
    rfl
  simp only [traceChain, hrun, List.append_nil, List.reverse_reverse]

/-- The steps are those of the formulas that come one after the other, up to the limit, all in one context. -/
theorem getElem?_chainVisits (more j : Nat) :
    (chainVisits step ctx more first)[j]? =
      if j ≤ more then (formulaAfter (step ctx) first j).map fun formula => ⟨ctx, formula, step ctx formula⟩
      else none := by
  induction j generalizing first more with
  | zero =>
    rw [chainVisits, if_pos (Nat.zero_le more)]
    rfl
  | succ j ih =>
    cases hnext : continuation? (step ctx first) with
    | none =>
      rw [chainVisits_of_none hnext, formulaAfter_of_none hnext, Option.map_none, ite_self]
      rfl
    | some next =>
      rw [chainVisits_of_some hnext, formulaAfter_of_some hnext, List.getElem?_cons_succ]
      cases more with
      | zero => exact (if_neg (Nat.not_succ_le_zero j)).symm
      | succ more => simp only [ih, Nat.succ_le_succ_iff]

theorem EndsAt.length_chainVisits {k : Nat} {last : String} (h : EndsAt (step ctx) first k last) (more : Nat) :
    (chainVisits step ctx more first).length = min k more + 1 := by
  induction k generalizing first more with
  | zero =>
    obtain rfl : first = last := Option.some.inj h.reached
    rw [chainVisits_of_none h.stops, Nat.zero_min]
    rfl
  | succ k ih =>
    cases hnext : continuation? (step ctx first) with
    | none => exact absurd (h.eq_zero hnext) (Nat.succ_ne_zero k)
    | some next =>
      rw [chainVisits_of_some hnext, List.length_cons]
      cases more with
      | zero => rfl
      | succ more =>
        dsimp only
        rw [ih ((endsAt_succ_iff hnext).mp h), Nat.succ_min_succ]

theorem length_chainVisits_of_never (h : ∀ k last, ¬EndsAt (step ctx) first k last) (more : Nat) :
    (chainVisits step ctx more first).length = more + 1 := by
  induction more generalizing first with
  | zero =>
    cases hnext : continuation? (step ctx first) with
    | none => exact absurd (endsAt_zero hnext) (h 0 first)
    | some next =>
      rw [chainVisits_of_some hnext]
      rfl
  | succ more ih =>
    cases hnext : continuation? (step ctx first) with
    | none => exact absurd (endsAt_zero hnext) (h 0 first)
    | some next =>
      rw [chainVisits_of_some hnext, List.length_cons]
      dsimp only
      rw [ih fun k last hend => h (k + 1) last ((endsAt_succ_iff hnext).mpr hend)]

end

/-! ## The evaluator within its levels -/

/-- Up to the deepest level, and with any engine, the evaluator takes the formulas one after the other, all in its
context. If they end after `k` others, it answers the result of the last one, or the failure of the limit where `k` is
above the limit; it has then taken `min k maxChain + 1` steps. If they never end, it fails with the limit, after
`maxChain + 1` steps. With the same steps, a higher limit changes nothing but that failure. -/
theorem evaluateIn_chain [Script.Engine] {g : Grid} {o : Options} {ctx : Context} (h : ctx.depth ≤ o.maxDepth)
    (first : String) :
    let step := evaluateStep g o.maxOperations (evaluateIn g o)
    let visits := (traceChain step ctx o.maxChain first).2
    (traceChain step ctx o.maxChain first).1 = evaluateIn g o ctx first ∧
    (∀ j v, visits[j]? = some v →
      v.context = ctx ∧ formulaAfter (step ctx) first j = some v.formula ∧ v.result = step ctx v.formula) ∧
    (∀ k last, EndsAt (step ctx) first k last →
      evaluateIn g o ctx first = (if k ≤ o.maxChain then step ctx last else .error .recursionLimit) ∧
      visits.length = min k o.maxChain + 1) ∧
    ((∀ k last, ¬EndsAt (step ctx) first k last) →
      evaluateIn g o ctx first = .error .recursionLimit ∧ visits.length = o.maxChain + 1) ∧
    ∀ less more, less ≤ more → followChain (step ctx) less first ≠ .error .recursionLimit →
      followChain (step ctx) more first = followChain (step ctx) less first := by
  intro step visits
  have heval : evaluateIn g o ctx first = followChain (step ctx) o.maxChain first := evaluateIn_eq g h first
  have hvisits : visits = chainVisits step ctx o.maxChain first := by
    dsimp only [visits]
    rw [traceChain_eq]
  rw [heval, hvisits, traceChain_eq]
  -- from here on the steps may be any
  clear_value visits step
  refine ⟨rfl, fun j v hv => ?_, fun k last hend => ⟨hend.followChain_eq _, hend.length_chainVisits _⟩,
    fun hnever => ⟨followChain_of_never hnever _, length_chainVisits_of_never hnever _⟩,
    fun less more => followChain_mono⟩
  rw [getElem?_chainVisits] at hv
  obtain ⟨formula, hformula, rfl⟩ := Option.map_eq_some_iff.mp (Option.ite_none_right_eq_some.mp hv).2
  exact ⟨rfl, hformula, rfl⟩

def Grid.ownName : Grid :=
  (Grid.new ⟨2, 1⟩).set ⟨1, 1⟩ (ofFormula "A1")

theorem Grid.ownName_step (nested : Context → String → Result) (depth : Nat) :
    evaluateStep Grid.ownName Options.default.maxOperations nested ⟨⟨2, 1⟩, depth⟩ "A1" =
      .ok (.text (ofFormula "A1")) := by
  have hstored : resolveCell Grid.ownName ⟨1, 1⟩ ⟨⟨2, 1⟩, depth⟩ = .ok (ofFormula "A1") := rfl
  calc evaluateStep Grid.ownName Options.default.maxOperations nested ⟨⟨2, 1⟩, depth⟩ "A1"
      = (resolveCell Grid.ownName ⟨1, 1⟩ ⟨⟨2, 1⟩, depth⟩).map CellValue.ofRaw := by
        rw [← Coord.name_first, evaluateStep_name suffices_default _ _ Coord.addressable_first]
    _ = .ok (.text (ofFormula "A1")) := by rw [hstored, Except.map, CellValue.ofRaw_ofFormula]

/-- Seen from another cell at the deepest level, its formulas never end. -/
theorem evaluateIn_chain_ownName :
    (⟨⟨2, 1⟩, 10⟩ : Context).depth ≤ Options.default.maxDepth ∧
      evaluateIn Grid.ownName Options.default ⟨⟨2, 1⟩, 10⟩ "A1" = .error .recursionLimit ∧
      (traceChain (evaluateStep Grid.ownName Options.default.maxOperations
        (evaluateIn Grid.ownName Options.default)) ⟨⟨2, 1⟩, 10⟩ Options.default.maxChain "A1").2.length = 1001 := by
  have hdepth : (⟨⟨2, 1⟩, 10⟩ : Context).depth ≤ Options.default.maxDepth := by decide
  have hloop : continuation? (evaluateStep Grid.ownName Options.default.maxOperations
      (evaluateIn Grid.ownName Options.default) ⟨⟨2, 1⟩, 10⟩ "A1") = some "A1" := by
    rw [Grid.ownName_step, continuation?, CellValue.display, formula?_ofFormula]
  obtain ⟨-, -, -, hnever, -⟩ := evaluateIn_chain (g := Grid.ownName) hdepth "A1"
  exact ⟨hdepth, hnever (not_endsAt_of_loop hloop)⟩

end Worksheet
