import Worksheet.Proofs.Script.Handlers
import Worksheet.Proofs.Script.Unwinding
import Worksheet.Script.Parser

/-!
# Handlers and their words

A reader of scripts makes a handler of the word `try` and a call of `dedup` of that name only, so the tree of a text
without the two has none.

* `NoHandler` : tokens without the two;
* `Reads` : what a reader makes of tokens without the two, and that it leaves none of them behind that is one of them;
* `expr_reads`, `statement_reads` and those beside them : every reader makes trees without handlers of such tokens;
* `isHandlerFree_of_parse?` : and so the tree of a script without the two has no handlers.
-/

namespace Worksheet.Script

namespace Parser

def NoHandler (ts : List Token) : Prop :=
  ∀ t ∈ ts, t.handles ["dedup"] = false

theorem NoHandler.tail {t : Token} {ts : List Token} (h : NoHandler (t :: ts)) : NoHandler ts :=
  fun u hu => h u (List.mem_cons_of_mem t hu)

theorem not_noHandler {ts : List Token} (h : NoHandler (.keyword .try_ :: ts)) : False :=
  Bool.noConfusion (h _ List.mem_cons_self)

theorem ne_of_contains {f : String} (h : ["dedup"].contains f = false) : (f != "dedup") = true := by
  simpa using h

/-- Whether all that is read has a property, and the tokens after it are without the two. -/
def Reads {α : Type} (P : α → Prop) (r : Option (α × List Token)) : Prop :=
  ∀ a rest, r = some (a, rest) → P a ∧ NoHandler rest

section

variable {α β : Type} {P : α → Prop} {Q : β → Prop}

theorem Reads.none : Reads P none := nofun

theorem Reads.some {a : α} {ts : List Token} (ha : P a) (hts : NoHandler ts) : Reads P (some (a, ts)) := by
  rintro _ _ ⟨⟩
  exact ⟨ha, hts⟩

theorem Reads.made {γ : Type} {r : Option (α × List Token)} {f : α × List Token → Option γ} {c : γ} (hr : Reads P r)
    (h : r >>= f = Option.some c) : ∃ a ts, P a ∧ NoHandler ts ∧ f (a, ts) = Option.some c := by
  obtain ⟨⟨a, ts⟩, hread, hmade⟩ := Option.bind_eq_some_iff.mp h
  obtain ⟨ha, hts⟩ := hr a ts hread
  exact ⟨a, ts, ha, hts, hmade⟩

theorem Reads.bind {r : Option (α × List Token)} {f : α × List Token → Option (β × List Token)} (hr : Reads P r)
    (hf : ∀ a ts, P a → NoHandler ts → Reads Q (f (a, ts))) : Reads Q (r >>= f) := by
  intro b rest h
  obtain ⟨a, ts, ha, hts, hrest⟩ := hr.made h
  exact hf a ts ha hts b rest hrest

theorem Reads.of {γ : Type} {o : Option γ} {f : γ → Option (β × List Token)}
    (hf : ∀ c, o = Option.some c → Reads Q (f c)) : Reads Q (o >>= f) := by
  intro b rest h
  obtain ⟨c, hc, hrest⟩ := Option.bind_eq_some_iff.mp h
  exact hf c hc b rest hrest

end

/-! ## Building trees -/

theorem isHandlerFree_negated {e : Expr} (h : e.isHandlerFree = true) : (negated e).isHandlerFree = true := by
  unfold negated
  split
  · split <;> rfl
  · rfl
  · exact h

theorem isHandlerFree_unnegated {e : Expr} (h : e.isHandlerFree = true) : (unnegated e).isHandlerFree = true := by
  unfold unnegated
  split
  · rfl
  · rfl
  · exact h

theorem isHandlerFree_combined {op : Operator} {a b e : Expr} (ha : a.isHandlerFree = true)
    (hb : b.isHandlerFree = true) (h : combined op a b = some e) : e.isHandlerFree = true := by
  have hboth : (a.isHandlerFree && b.isHandlerFree) = true := Bool.and_eq_true_iff.mpr ⟨ha, hb⟩
  have hswapped : (b.isHandlerFree && a.isHandlerFree) = true := Bool.and_eq_true_iff.mpr ⟨hb, ha⟩
  cases op with
  | binary | coalesce =>
    cases h
    exact hboth
  | both | either =>
    obtain ⟨-, h⟩ := Option.ite_none_right_eq_some.mp h
    cases h
    exact hboth
  | within | notWithin =>
    cases h
    exact hswapped

theorem isHandlerFree_chained {base e : Expr} {steps : List Step} (hbase : base.isHandlerFree = true)
    (hsteps : stepsAreHandlerFree steps = true) (h : chained base steps = some e) : e.isHandlerFree = true := by
  have hchain : (Expr.chain base steps).isHandlerFree = true := by
    rw [Expr.isHandlerFree, hbase, hsteps, Bool.and_true]
  unfold chained at h
  split at h
  · cases h
    exact hbase
  · obtain ⟨-, h⟩ := Option.ite_none_right_eq_some.mp h
    cases h
    exact hchain
  · cases h
    exact hchain

theorem isHandlerFree_assigned {target value : Expr} {op : Option BinaryOp} {st : Stmt}
    (htarget : target.isHandlerFree = true) (hvalue : value.isHandlerFree = true)
    (h : assigned target op value = some st) : st.isHandlerFree = true := by
  unfold assigned at h
  split at h
  · cases h
    rw [Stmt.isHandlerFree, stepsAreHandlerFree, hvalue, Bool.and_true]
  · obtain ⟨-, h⟩ := Option.ite_none_right_eq_some.mp h
    cases h
    rw [Expr.isHandlerFree, Bool.and_eq_true] at htarget
    rw [Stmt.isHandlerFree, htarget.2, hvalue, Bool.and_true]
  · cases h

/-! ## Readers -/

section

variable {ts : List Token} (h : NoHandler ts)
include h

theorem loopNames_reads : Reads (fun _ => True) (loopNames ts) := by
  unfold loopNames
  split
  · exact .some trivial h.tail
  · split
    · exact .none
    · exact .some trivial h.tail.tail.tail.tail.tail
  · exact .none

theorem names_reads : Reads (fun _ => True) (names ts) := by
  fun_induction names ts with
  | case1 ts => exact .some trivial h.tail
  | case2 s ts => exact .some trivial h.tail.tail
  | case3 s ts ih =>
    intro ss rest hread
    obtain ⟨⟨ss', rest'⟩, hnames, hss⟩ := Option.map_eq_some_iff.mp hread
    cases hss
    exact ⟨trivial, (ih h.tail.tail ss' rest hnames).2⟩
  | case4 => exact .none

theorem parameters_reads : Reads (fun _ => True) (parameters ts) := by
  unfold parameters
  split
  · exact .some trivial h.tail
  · refine .bind (names_reads h.tail) fun ss ts _ hts => ?_
    dsimp only
    split
    · exact .some trivial hts
    · exact .none
  · exact .none

end

mutual

theorem expr_reads : ∀ {fuel : Nat} {s : Setting} {ts : List Token}, NoHandler ts →
    Reads (·.isHandlerFree = true) (expr fuel s ts)
  | 0, _, _, _ => .none
  | _ + 1, _, _, h => .of fun _ _ => .bind (unary_reads h) fun _ _ ha hts => operators_reads ha hts

theorem operators_reads : ∀ {fuel : Nat} {s : Setting} {level : Nat} {a : Expr} {ts : List Token},
    a.isHandlerFree = true → NoHandler ts → Reads (·.isHandlerFree = true) (operators fuel s level a ts)
  | 0, _, _, _, _, _, _ => .none
  | fuel + 1, s, level, a, ts, ha, h => by
    unfold operators
    split
    · next op rest =>
      split
      · exact .some ha h
      · have hcombined : ∀ b ts, b.isHandlerFree = true → NoHandler ts →
            Reads (·.isHandlerFree = true) (do
              let s ← s.deeper
              let e ← combined op a b
              operators fuel s level e ts) := fun b ts hb hts =>
          .of fun _ _ => .of fun e he => operators_reads (isHandlerFree_combined ha hb he) hts
        refine .bind (unary_reads h.tail) fun b ts hb hts => ?_
        dsimp only
        split
        · split
          · exact .bind (operators_reads hb hts) hcombined
          · exact hcombined _ _ hb hts
        · exact hcombined _ _ hb hts
    · exact .some ha h

theorem unary_reads : ∀ {fuel : Nat} {s : Setting} {ts : List Token}, NoHandler ts →
    Reads (·.isHandlerFree = true) (unary fuel s ts)
  | 0, _, _, _ => .none
  | fuel + 1, s, ts, h => by
    unfold unary
    split
    · exact .of fun _ _ => .bind (unary_reads h.tail) fun _ _ he hts => .some (isHandlerFree_negated he) hts
    · exact .of fun _ _ => .bind (unary_reads h.tail) fun _ _ he hts => .some (isHandlerFree_unnegated he) hts
    · exact .of fun _ _ => .bind (unary_reads h.tail) fun _ _ he hts => .some he hts
    · exact .bind (primary_reads h) fun _ _ he hts => .bind (steps_reads hts) fun _ _ hmore hrest =>
        .of fun _ hchained => .some (isHandlerFree_chained he hmore hchained) hrest

theorem primary_reads : ∀ {fuel : Nat} {s : Setting} {ts : List Token}, NoHandler ts →
    Reads (·.isHandlerFree = true) (primary fuel s ts)
  | 0, _, _, _ => .none
  | fuel + 1, s, ts, h => by
    have hcall : ∀ f {ts}, NoHandler ts → Reads (·.isHandlerFree = true) (do
        let (es, ts) ← arguments fuel (← s.deeper) ts
        return (Expr.call f es, ts)) := fun f ts hts =>
      .of fun _ _ => .bind (arguments_reads hts) fun _ _ hes hrest => .some hes hrest
    unfold primary
    split
    -- numbers, characters, texts, truth values and `()`
    · exact .some rfl h.tail
    · exact .some rfl h.tail
    · exact .some rfl h.tail
    · exact .some rfl h.tail
    · exact .some rfl h.tail
    · exact .some rfl h.tail
    · exact .some rfl h.tail
    -- names and calls
    · exact .some rfl h.tail.tail.tail
    · exact hcall _ h.tail.tail.tail
    · exact .some rfl h.tail.tail
    · exact hcall _ h.tail.tail
    · exact .some rfl h.tail
    · exact .some rfl h.tail.tail
    · exact hcall _ h.tail.tail
    · split
      · exact .some rfl h.tail
      · exact .none
    -- parentheses, arrays, maps and texts with blocks
    · exact .some rfl h.tail.tail
    · refine .of fun _ _ => .bind (expr_reads h.tail) fun e ts he hts => ?_
      dsimp only
      split
      · exact .some he hts.tail
      · exact .none
    · exact .of fun _ _ => .bind (items_reads h.tail) fun _ _ hes hts => .some hes hts
    · exact .of fun _ _ => .bind (entries_reads h.tail) fun _ _ hes hts => .some hes hts
    · exact .of fun _ _ => .bind (pieces_reads h) fun _ _ hes hts => .some hes hts
    -- statements
    · exact .of fun _ _ => .bind (statements_reads h.tail) fun _ _ hbody hts => .some hbody hts
    · exact .of fun _ _ => .bind (conditional_reads h.tail) fun _ _ hst hts => .some hst hts
    · exact .of fun _ _ => .bind (repetition_reads h) fun _ _ hst hts => .some hst hts
    · exact .of fun _ _ => .bind (repetition_reads h) fun _ _ hst hts => .some hst hts
    · exact .of fun _ _ => .bind (repetition_reads h) fun _ _ hst hts => .some hst hts
    · exact .none

theorem steps_reads : ∀ {fuel : Nat} {s : Setting} {ts : List Token}, NoHandler ts →
    Reads (stepsAreHandlerFree · = true) (steps fuel s ts)
  | 0, _, _, _ => .none
  | fuel + 1, s, ts, h => by
    unfold steps
    split
    · refine .of fun _ _ => .bind (expr_reads h.tail) fun e ts he hts => ?_
      dsimp only
      split
      · exact .bind (steps_reads hts.tail) fun _ _ hmore hrest => .some (Bool.and_eq_true_iff.mpr ⟨he, hmore⟩) hrest
      · exact .none
    · exact .of fun _ _ => step_reads (ne_of_contains (h.tail _ List.mem_cons_self)) h.tail.tail
    · exact .of fun _ _ => step_reads (ne_of_contains (h.tail _ List.mem_cons_self)) h.tail.tail
    · exact .none
    · exact .some rfl h

theorem step_reads : ∀ {fuel : Nat} {s : Setting} {f : String} {mayBeProperty : Bool} {ts : List Token},
    (f != "dedup") = true → NoHandler ts → Reads (stepsAreHandlerFree · = true) (step fuel s f mayBeProperty ts)
  | 0, _, _, _, _, _, _ => .none
  | fuel + 1, s, f, mayBeProperty, ts, hf, h => by
    have hmethod : ∀ {es more}, areHandlerFree es = true → stepsAreHandlerFree more = true →
        stepsAreHandlerFree (.method f es :: more) = true := fun hes hmore => by
      rw [stepsAreHandlerFree, Step.isHandlerFree, hf, hes, hmore]
      rfl
    unfold step
    split
    · exact .bind (steps_reads h.tail) fun _ _ hmore hrest => .some (hmethod rfl hmore) hrest
    · exact .of fun _ _ => .bind (arguments_reads h.tail) fun _ _ hes hts =>
        .bind (steps_reads hts) fun _ _ hmore hrest => .some (hmethod hes hmore) hrest
    · split
      · exact .bind (steps_reads h) fun _ _ hmore hrest => .some hmore hrest
      · exact .none

theorem arguments_reads : ∀ {fuel : Nat} {s : Setting} {ts : List Token}, NoHandler ts →
    Reads (areHandlerFree · = true) (arguments fuel s ts)
  | 0, _, _, _ => .none
  | fuel + 1, s, ts, h => by
    unfold arguments
    split
    · exact .some rfl h.tail
    · refine .bind (expr_reads h) fun e ts he hts => ?_
      dsimp only
      split
      · exact .some (Bool.and_eq_true_iff.mpr ⟨he, rfl⟩) hts.tail
      · exact .bind (arguments_reads hts.tail) fun _ _ hes hrest => .some (Bool.and_eq_true_iff.mpr ⟨he, hes⟩) hrest
      · exact .none

theorem items_reads : ∀ {fuel : Nat} {s : Setting} {ts : List Token}, NoHandler ts →
    Reads (areHandlerFree · = true) (items fuel s ts)
  | 0, _, _, _ => .none
  | fuel + 1, s, ts, h => by
    unfold items
    split
    · exact .some rfl h.tail
    · refine .bind (expr_reads h) fun e ts he hts => ?_
      dsimp only
      split
      · exact .some (Bool.and_eq_true_iff.mpr ⟨he, rfl⟩) hts.tail
      · exact .bind (items_reads hts.tail) fun _ _ hes hrest => .some (Bool.and_eq_true_iff.mpr ⟨he, hes⟩) hrest
      · exact .none

theorem entries_reads : ∀ {fuel : Nat} {s : Setting} {seen : List String} {ts : List Token}, NoHandler ts →
    Reads (fun es => areHandlerFree (es.map (·.2)) = true) (entries fuel s seen ts)
  | 0, _, _, _, _ => .none
  | fuel + 1, s, seen, ts, h => by
    unfold entries
    split
    · exact .some rfl h.tail
    · exact entry_reads h.tail.tail
    · exact entry_reads h.tail.tail
    · exact .none

theorem entry_reads : ∀ {fuel : Nat} {s : Setting} {seen : List String} {key : String} {ts : List Token}, NoHandler ts →
    Reads (fun es => areHandlerFree (es.map (·.2)) = true) (entry fuel s seen key ts)
  | 0, _, _, _, _, _ => .none
  | fuel + 1, s, seen, key, ts, h => by
    unfold entry
    split
    · exact .none
    · refine .bind (expr_reads h) fun e ts he hts => ?_
      dsimp only
      split
      · exact .some (Bool.and_eq_true_iff.mpr ⟨he, rfl⟩) hts.tail
      · exact .bind (entries_reads hts.tail) fun _ _ hes hrest => .some (Bool.and_eq_true_iff.mpr ⟨he, hes⟩) hrest
      · exact .none

theorem pieces_reads : ∀ {fuel : Nat} {s : Setting} {ts : List Token}, NoHandler ts →
    Reads (areHandlerFree · = true) (pieces fuel s ts)
  | 0, _, _, _ => .none
  | fuel + 1, s, ts, h => by
    unfold pieces
    split
    · refine .some ?_ h.tail
      split <;> rfl
    · refine .bind (statements_reads h.tail.tail) fun body ts hbody hts =>
        .bind (pieces_reads hts) fun es rest hes hrest => .some ?_ hrest
      have hparts : areHandlerFree (.statement (.block body) :: es) = true := Bool.and_eq_true_iff.mpr ⟨hbody, hes⟩
      split
      · exact hparts
      · exact hparts
    · exact .none

theorem statements_reads : ∀ {fuel : Nat} {s : Setting} {ts : List Token}, NoHandler ts →
    Reads (bodyIsHandlerFree · = true) (statements fuel s ts)
  | 0, _, _, _ => .none
  | fuel + 1, s, ts, h => by
    unfold statements
    split
    · exact .some rfl h.tail
    · exact statements_reads h.tail
    · refine .bind (statement_reads h) fun st ts hst hts => ?_
      have hmore : ∀ {ts}, NoHandler ts → Reads (bodyIsHandlerFree · = true) (do
          let (more, ts) ← statements fuel s ts
          return (st :: more, ts)) := fun hts =>
        .bind (statements_reads hts) fun _ _ hmore hrest => .some (Bool.and_eq_true_iff.mpr ⟨hst, hmore⟩) hrest
      dsimp only
      split
      · exact .some (Bool.and_eq_true_iff.mpr ⟨hst, rfl⟩) hts.tail
      · exact hmore hts.tail
      · split
        · exact hmore hts
        · exact .none

theorem block_reads : ∀ {fuel : Nat} {s : Setting} {ts : List Token}, NoHandler ts →
    Reads (bodyIsHandlerFree · = true) (block fuel s ts)
  | 0, _, _, _ => .none
  | fuel + 1, s, ts, h => by
    unfold block
    split
    · exact .of fun _ _ => statements_reads h.tail
    · exact .none

theorem value_reads : ∀ {fuel : Nat} {s : Setting} {ts : List Token}, NoHandler ts →
    Reads (·.isHandlerFree = true) (value fuel s ts)
  | 0, _, _, _ => .none
  | fuel + 1, s, ts, h => by
    unfold value
    split
    · exact .some rfl h
    · exact expr_reads h

theorem statement_reads : ∀ {fuel : Nat} {s : Setting} {ts : List Token}, NoHandler ts →
    Reads (·.isHandlerFree = true) (statement fuel s ts)
  | 0, _, _, _ => .none
  | fuel + 1, s, ts, h => by
    unfold statement
    split
    · exact .of fun _ _ => .bind (statements_reads h.tail) fun _ _ hbody hts => .some hbody hts
    · exact .of fun _ _ => conditional_reads h.tail
    · exact .of fun _ _ => repetition_reads h
    · exact .of fun _ _ => repetition_reads h
    · exact .of fun _ _ => repetition_reads h
    · exact (not_noHandler h).elim
    · exact definition_reads h.tail.tail
    · exact definition_reads h.tail.tail
    · split
      · exact .some rfl h.tail
      · exact .none
    · split
      · exact .bind (value_reads h.tail) fun _ _ he hts => .some he hts
      · exact .none
    · exact .bind (value_reads h.tail) fun _ _ he hts => .some he hts
    · exact .bind (value_reads h.tail) fun _ _ he hts => .some he hts
    · refine .bind (expr_reads h) fun e ts he hts => ?_
      dsimp only
      split
      · exact .bind (expr_reads hts.tail) fun _ _ hv hrest => .of fun _ hassigned =>
          .some (isHandlerFree_assigned he hv hassigned) hrest
      · exact .some he hts

theorem definition_reads : ∀ {fuel : Nat} {s : Setting} {v : String} {constant : Bool} {ts : List Token}, NoHandler ts →
    Reads (·.isHandlerFree = true) (definition fuel s v constant ts)
  | 0, _, _, _, _, _ => .none
  | fuel + 1, s, v, constant, ts, h => by
    unfold definition
    split
    · exact .of fun _ _ => .bind (expr_reads h.tail) fun _ _ he hts => .some he hts
    · exact .some rfl h

theorem conditional_reads : ∀ {fuel : Nat} {s : Setting} {ts : List Token}, NoHandler ts →
    Reads (·.isHandlerFree = true) (conditional fuel s ts)
  | 0, _, _, _ => .none
  | fuel + 1, s, ts, h => by
    unfold conditional
    refine .bind (expr_reads h) fun c ts hc hts => ?_
    have hif : ∀ {yes no}, bodyIsHandlerFree yes = true → bodyIsHandlerFree no = true →
        (Stmt.if_ c yes no).isHandlerFree = true := fun hyes hno => by
      rw [Stmt.isHandlerFree, hc, hyes, hno]
      rfl
    dsimp only
    split
    · refine .bind (block_reads hts) fun yes ts hyes hts => ?_
      dsimp only
      split
      · exact .of fun _ _ => .bind (conditional_reads hts.tail.tail) fun _ _ hno hrest =>
          .some (hif hyes (Bool.and_eq_true_iff.mpr ⟨hno, rfl⟩)) hrest
      · exact .bind (block_reads hts.tail) fun _ _ hno hrest => .some (hif hyes hno) hrest
      · exact .some (hif hyes rfl) hts
    · exact .none

theorem repetition_reads : ∀ {fuel : Nat} {s : Setting} {ts : List Token}, NoHandler ts →
    Reads (·.isHandlerFree = true) (repetition fuel s ts)
  | 0, _, _, _ => .none
  | fuel + 1, s, ts, h => by
    unfold repetition
    split
    · refine .bind (expr_reads h.tail) fun c ts hc hts => ?_
      dsimp only
      split
      · exact .bind (block_reads hts) fun _ _ hbody hrest => .some (Bool.and_eq_true_iff.mpr ⟨hc, hbody⟩) hrest
      · exact .none
    · exact .bind (block_reads h.tail) fun _ _ hbody hts => .some hbody hts
    · refine .bind (loopNames_reads h.tail) fun _ ts _ hts => ?_
      dsimp only
      split
      · refine .bind (expr_reads hts.tail) fun iterable ts hiterable hts => ?_
        dsimp only
        split
        · exact .bind (block_reads hts) fun _ _ hbody hrest =>
            .some (Bool.and_eq_true_iff.mpr ⟨hiterable, hbody⟩) hrest
        · exact .none
      · exact .none
    · exact .none

end

/-! ## Whole scripts -/

theorem function_reads {fuel : Nat} {ts : List Token} (h : NoHandler ts) :
    Reads (fun f => bodyIsHandlerFree f.body = true) (function fuel ts) := by
  unfold function
  split
  · exact .of fun _ _ => .bind (parameters_reads h.tail) fun _ _ _ hts =>
      .bind (block_reads hts) fun _ _ hbody hrest => .some hbody hrest
  · exact .none

theorem isHandlerFree_withFunction {f : Function} {p q : Program} (hf : bodyIsHandlerFree f.body = true)
    (hp : p.isHandlerFree = true) (h : withFunction f p = some q) : q.isHandlerFree = true := by
  obtain ⟨-, h⟩ := Option.ite_none_left_eq_some.mp h
  cases h
  rw [Program.isHandlerFree] at hp ⊢
  rw [List.all_cons, hf, Bool.true_and, hp]

theorem isHandlerFree_withStatement {st : Stmt} {p : Program} (hst : st.isHandlerFree = true)
    (hp : p.isHandlerFree = true) : (withStatement st p).isHandlerFree = true := by
  rw [Program.isHandlerFree, Bool.and_eq_true] at hp
  rw [withStatement, Program.isHandlerFree, bodyIsHandlerFree, hp.1, hp.2, hst]
  rfl

theorem isHandlerFree_program {fuel : Nat} {ts : List Token} (h : NoHandler ts) {p : Program}
    (hp : program fuel ts = some p) : p.isHandlerFree = true := by
  induction fuel generalizing ts p with
  | zero => cases hp
  | succ fuel ih =>
    have hfunction : ∀ {ts}, NoHandler ts →
        (function fuel ts >>= fun r => program fuel r.2 >>= withFunction r.1) = some p → p.isHandlerFree = true := by
      intro ts hts hp
      obtain ⟨f, ts, hf, hts, hp⟩ := (function_reads hts).made hp
      obtain ⟨q, hq, hp⟩ := Option.bind_eq_some_iff.mp hp
      exact isHandlerFree_withFunction hf (ih hts hq) hp
    unfold program at hp
    split at hp
    · cases hp
      rfl
    · exact ih h.tail hp
    · exact hfunction h.tail hp
    · exact hfunction h.tail.tail hp
    · obtain ⟨st, ts, hst, hts, hp⟩ := (statement_reads h).made hp
      have hmore : ∀ {ts}, NoHandler ts → (do return withStatement st (← program fuel ts)) = some p →
          p.isHandlerFree = true := by
        intro ts hts hp
        obtain ⟨q, hq, hp⟩ := Option.bind_eq_some_iff.mp hp
        cases hp
        exact isHandlerFree_withStatement hst (ih hts hq)
      dsimp only at hp
      split at hp
      · cases hp
        rw [Program.isHandlerFree, bodyIsHandlerFree, hst]
        rfl
      · exact hmore hts.tail hp
      · split at hp
        · exact hmore hts hp
        · cases hp

end Parser

/-- The tree of a text without handlers has none. -/
theorem isHandlerFree_of_parse? {script : String} (h : lacks ["dedup"] script = true) {p : Program}
    (hp : Program.parse? script = some p) : p.isHandlerFree = true := by
  obtain ⟨ts, htokens, hp⟩ := Option.bind_eq_some_iff.mp hp
  have hts : Parser.NoHandler ts := by
    simpa only [Parser.NoHandler, lacks, htokens, Option.all_some, List.all_eq_true, Bool.not_eq_true'] using h
  exact Parser.isHandlerFree_program hts hp

end Worksheet.Script
