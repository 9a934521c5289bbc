import Worksheet.Script.Simplify

/-!
# Scripts without handlers

* `Expr.isHandlerFree`, `Stmt.isHandlerFree`, `Program.isHandlerFree` : whether there is no `try` and no call of `dedup`
  on a value in a tree, however deep they may stand;
* `Program.isHandlerFree_simplify` : simplifying a script adds none.
-/

namespace Worksheet.Script

/-! ## Trees -/

mutual

/-- Whether nothing in an expression handles faults. -/
def Expr.isHandlerFree : Expr → Bool
  | .literal _ | .name _ | .this => true
  | .array es | .map _ es | .template es | .call _ es => areHandlerFree es
  | .both a b | .either a b | .coalesce a b | .binary _ a b | .within a b => a.isHandlerFree && b.isHandlerFree
  | .unary _ a => a.isHandlerFree
  | .chain base steps => base.isHandlerFree && stepsAreHandlerFree steps
  | .statement st => st.isHandlerFree

def areHandlerFree : List Expr → Bool
  | [] => true
  | e :: es => e.isHandlerFree && areHandlerFree es

def Step.isHandlerFree : Step → Bool
  | .index e => e.isHandlerFree
  | .property _ => true
  | .method f es => f != "dedup" && areHandlerFree es

def stepsAreHandlerFree : List Step → Bool
  | [] => true
  | st :: sts => st.isHandlerFree && stepsAreHandlerFree sts

def Stmt.isHandlerFree : Stmt → Bool
  | .skip | .continue_ => true
  | .expr e | .define _ _ e | .break_ e | .return_ e | .throw_ e => e.isHandlerFree
  | .assign _ path _ e => stepsAreHandlerFree path && e.isHandlerFree
  | .if_ c yes no => c.isHandlerFree && bodyIsHandlerFree yes && bodyIsHandlerFree no
  | .while_ c body => c.isHandlerFree && bodyIsHandlerFree body
  | .loop body | .block body => bodyIsHandlerFree body
  | .for_ _ _ iterable body => iterable.isHandlerFree && bodyIsHandlerFree body
  | .try_ _ _ _ => false

def bodyIsHandlerFree : List Stmt → Bool
  | [] => true
  | st :: sts => st.isHandlerFree && bodyIsHandlerFree sts

end

def Program.isHandlerFree (p : Program) : Bool :=
  p.functions.all (fun f => bodyIsHandlerFree f.body) && bodyIsHandlerFree p.body

/-! ## Simplified trees -/

theorem isHandlerFree_getD_literalOf? (r : Except Fault Value) {e : Expr} (he : e.isHandlerFree = true) :
    ((literalOf? r).getD e).isHandlerFree = true := by
  cases r with
  | error f => exact he
  | ok v =>
    rw [literalOf?]
    cases Literal.ofValue? v with
    | none => exact he
    | some l => rfl

theorem isHandlerFree_foldUnary (op : UnaryOp) {a : Expr} (ha : a.isHandlerFree = true) :
    (foldUnary op a).isHandlerFree = true := by
  unfold foldUnary
  split
  · exact isHandlerFree_getD_literalOf? _ ha
  · exact ha

section

variable {a b : Expr} (ha : a.isHandlerFree = true) (hb : b.isHandlerFree = true)
include ha hb

theorem isHandlerFree_foldBinary (op : BinaryOp) : (foldBinary op a b).isHandlerFree = true := by
  have hboth : (Expr.binary op a b).isHandlerFree = true := Bool.and_eq_true_iff.mpr ⟨ha, hb⟩
  unfold foldBinary
  split
  · exact isHandlerFree_getD_literalOf? _ hboth
  · exact hboth

theorem isHandlerFree_foldBoth : (foldBoth a b).isHandlerFree = true := by
  unfold foldBoth
  split
  · exact hb
  · rfl
  · exact ha
  · exact Bool.and_eq_true_iff.mpr ⟨ha, hb⟩

theorem isHandlerFree_foldEither : (foldEither a b).isHandlerFree = true := by
  unfold foldEither
  split
  · exact hb
  · rfl
  · exact ha
  · exact Bool.and_eq_true_iff.mpr ⟨ha, hb⟩

theorem isHandlerFree_foldCoalesce : (foldCoalesce a b).isHandlerFree = true := by
  unfold foldCoalesce
  split
  · exact hb
  · rfl
  · exact Bool.and_eq_true_iff.mpr ⟨ha, hb⟩

end

theorem bodyIsHandlerFree_pruned (wanted : Bool) {sts : List Stmt} (h : bodyIsHandlerFree sts = true) :
    bodyIsHandlerFree (pruned wanted sts) = true := by
  fun_induction pruned wanted sts <;> simp_all [bodyIsHandlerFree]

theorem isHandlerFree_foldIf {c : Expr} {yes no : List Stmt} (hc : c.isHandlerFree = true)
    (hyes : bodyIsHandlerFree yes = true) (hno : bodyIsHandlerFree no = true) :
    (foldIf c yes no).isHandlerFree = true := by
  unfold foldIf
  split
  · exact hyes
  · exact hno
  · split
    · simp [Stmt.isHandlerFree, bodyIsHandlerFree, hc]
    · simp [Stmt.isHandlerFree, hc, hyes, hno]

theorem isHandlerFree_foldWhile {c : Expr} {body : List Stmt} (hc : c.isHandlerFree = true)
    (hbody : bodyIsHandlerFree body = true) : (foldWhile c body).isHandlerFree = true := by
  unfold foldWhile
  split
  · exact hbody
  · rfl
  · exact Bool.and_eq_true_iff.mpr ⟨hc, hbody⟩

mutual

theorem Expr.isHandlerFree_simplify : ∀ {e : Expr}, e.isHandlerFree = true → e.simplify.isHandlerFree = true
  | .literal _, _ | .name _, _ | .this, _ => rfl
  | .array _, h | .map _ _, h | .template _, h | .call _ _, h => areHandlerFree_simplifyAll h
  | .both _ _, h => by
    rw [Expr.isHandlerFree, Bool.and_eq_true] at h
    exact isHandlerFree_foldBoth (Expr.isHandlerFree_simplify h.1) (Expr.isHandlerFree_simplify h.2)
  | .either _ _, h => by
    rw [Expr.isHandlerFree, Bool.and_eq_true] at h
    exact isHandlerFree_foldEither (Expr.isHandlerFree_simplify h.1) (Expr.isHandlerFree_simplify h.2)
  | .coalesce _ _, h => by
    rw [Expr.isHandlerFree, Bool.and_eq_true] at h
    exact isHandlerFree_foldCoalesce (Expr.isHandlerFree_simplify h.1) (Expr.isHandlerFree_simplify h.2)
  | .unary op _, h => isHandlerFree_foldUnary op (Expr.isHandlerFree_simplify h)
  | .binary op _ _, h => by
    rw [Expr.isHandlerFree, Bool.and_eq_true] at h
    exact isHandlerFree_foldBinary (Expr.isHandlerFree_simplify h.1) (Expr.isHandlerFree_simplify h.2) op
  | .within _ _, h => by
    rw [Expr.isHandlerFree, Bool.and_eq_true] at h
    exact Bool.and_eq_true_iff.mpr ⟨Expr.isHandlerFree_simplify h.1, Expr.isHandlerFree_simplify h.2⟩
  | .chain _ _, h => by
    rw [Expr.isHandlerFree, Bool.and_eq_true] at h
    exact Bool.and_eq_true_iff.mpr ⟨Expr.isHandlerFree_simplify h.1, stepsAreHandlerFree_simplifySteps h.2⟩
  | .statement _, h => Stmt.isHandlerFree_simplify h

theorem areHandlerFree_simplifyAll : ∀ {es : List Expr}, areHandlerFree es = true →
    areHandlerFree (simplifyAll es) = true
  | [], _ => rfl
  | _ :: _, h => by
    rw [areHandlerFree, Bool.and_eq_true] at h
    exact Bool.and_eq_true_iff.mpr ⟨Expr.isHandlerFree_simplify h.1, areHandlerFree_simplifyAll h.2⟩

theorem Step.isHandlerFree_simplify : ∀ {st : Step}, st.isHandlerFree = true → st.simplify.isHandlerFree = true
  | .index _, h => Expr.isHandlerFree_simplify h
  | .property _, _ => rfl
  | .method _ _, h => by
    rw [Step.isHandlerFree, Bool.and_eq_true] at h
    exact Bool.and_eq_true_iff.mpr ⟨h.1, areHandlerFree_simplifyAll h.2⟩

theorem stepsAreHandlerFree_simplifySteps : ∀ {sts : List Step}, stepsAreHandlerFree sts = true →
    stepsAreHandlerFree (simplifySteps sts) = true
  | [], _ => rfl
  | _ :: _, h => by
    rw [stepsAreHandlerFree, Bool.and_eq_true] at h
    exact Bool.and_eq_true_iff.mpr ⟨Step.isHandlerFree_simplify h.1, stepsAreHandlerFree_simplifySteps h.2⟩

theorem Stmt.isHandlerFree_simplify : ∀ {st : Stmt}, st.isHandlerFree = true → st.simplify.isHandlerFree = true
  | .skip, _ | .continue_, _ => rfl
  | .expr _, h | .define _ _ _, h | .break_ _, h | .return_ _, h | .throw_ _, h => Expr.isHandlerFree_simplify h
  | .assign _ _ _ _, h => by
    rw [Stmt.isHandlerFree, Bool.and_eq_true] at h
    exact Bool.and_eq_true_iff.mpr ⟨stepsAreHandlerFree_simplifySteps h.1, Expr.isHandlerFree_simplify h.2⟩
  | .if_ _ _ _, h => by
    simp only [Stmt.isHandlerFree, Bool.and_eq_true] at h
    exact isHandlerFree_foldIf (Expr.isHandlerFree_simplify h.1.1)
      (bodyIsHandlerFree_pruned true (bodyIsHandlerFree_simplifyEach h.1.2))
      (bodyIsHandlerFree_pruned true (bodyIsHandlerFree_simplifyEach h.2))
  | .while_ _ _, h => by
    rw [Stmt.isHandlerFree, Bool.and_eq_true] at h
    exact isHandlerFree_foldWhile (Expr.isHandlerFree_simplify h.1)
      (bodyIsHandlerFree_pruned false (bodyIsHandlerFree_simplifyEach h.2))
  | .loop _, h => bodyIsHandlerFree_pruned false (bodyIsHandlerFree_simplifyEach h)
  | .for_ _ _ _ _, h => by
    rw [Stmt.isHandlerFree, Bool.and_eq_true] at h
    exact Bool.and_eq_true_iff.mpr ⟨Expr.isHandlerFree_simplify h.1,
      bodyIsHandlerFree_pruned false (bodyIsHandlerFree_simplifyEach h.2)⟩
  | .try_ _ _ _, h => nomatch h
  | .block _, h => bodyIsHandlerFree_pruned true (bodyIsHandlerFree_simplifyEach h)

theorem bodyIsHandlerFree_simplifyEach : ∀ {sts : List Stmt}, bodyIsHandlerFree sts = true →
    bodyIsHandlerFree (simplifyEach sts) = true
  | [], _ => rfl
  | _ :: _, h => by
    rw [bodyIsHandlerFree, Bool.and_eq_true] at h
    exact Bool.and_eq_true_iff.mpr ⟨Stmt.isHandlerFree_simplify h.1, bodyIsHandlerFree_simplifyEach h.2⟩

end

theorem Program.isHandlerFree_simplify {p : Program} (h : p.isHandlerFree = true) :
    p.simplify.isHandlerFree = true := by
  rw [Program.isHandlerFree, Bool.and_eq_true, List.all_eq_true] at h ⊢
  refine ⟨fun f hf => ?_, bodyIsHandlerFree_pruned true (bodyIsHandlerFree_simplifyEach h.2)⟩
  obtain ⟨f', hf', rfl⟩ := List.mem_map.mp hf
  exact bodyIsHandlerFree_pruned true (bodyIsHandlerFree_simplifyEach (h.1 f' hf'))

end Worksheet.Script
