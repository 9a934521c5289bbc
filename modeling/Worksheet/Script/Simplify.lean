import Worksheet.Script.Tree

/-!
# Simplifying scripts

Before a script runs it is simplified: operators on literals are computed where they have a value,
conditions that are known decide, and statements that can have no effect are dropped. What is dropped is
not checked: a variable that does not exist is no mistake in a statement whose value nobody takes, and
neither is the type of `x` in `x && true`.

* `Expr.isPure`, `Stmt.isPure` : what can have no effect.
* `Expr.simplify`, `Stmt.simplify`, `simplifyBody` : simpler trees.
* `Program.simplify` : a script with its functions.
-/

namespace Worksheet.Script

/-! ## Effects -/

mutual

/-- Whether an expression has no effect, an unknown variable apart. -/
def Expr.isPure : Expr → Bool
  | .literal _ | .name _ => true
  | .array es | .map _ es | .template es => arePure es
  | .both a b | .either a b | .coalesce a b => a.isPure && b.isPure
  | .statement st => st.isPure
  | _ => false

def arePure : List Expr → Bool
  | [] => true
  | e :: es => e.isPure && arePure es

def Stmt.isPure : Stmt → Bool
  | .skip => true
  | .expr e => e.isPure
  | .if_ c yes no => c.isPure && bodyIsPure yes && bodyIsPure no
  | .while_ (.literal (.bool false)) _ => true
  | .for_ _ _ iterable body => iterable.isPure && bodyIsPure body
  | .try_ body _ handler => bodyIsPure body && bodyIsPure handler
  | .block body => bodyIsPure body
  | _ => false

def bodyIsPure : List Stmt → Bool
  | [] => true
  | st :: sts => st.isPure && bodyIsPure sts

end

/-! ## Expressions -/

/-- The literal that an answer is, if it is one. -/
def literalOf? : Except Fault Value → Option Expr
  | .ok v => (Literal.ofValue? v).map .literal
  | .error _ => none

def foldUnary (op : UnaryOp) (a : Expr) : Expr :=
  match a with
  | .literal l => (literalOf? (op.apply l.value)).getD (.unary op a)
  | _ => .unary op a

def foldBinary (op : BinaryOp) (a b : Expr) : Expr :=
  match a, b with
  | .literal l, .literal m => (literalOf? (op.apply l.value m.value)).getD (.binary op a b)
  | _, _ => .binary op a b

def foldBoth (a b : Expr) : Expr :=
  match a, b with
  | .literal (.bool true), b => b
  | .literal (.bool false), _ => .literal (.bool false)
  | a, .literal (.bool true) => a
  | a, b => .both a b

def foldEither (a b : Expr) : Expr :=
  match a, b with
  | .literal (.bool false), b => b
  | .literal (.bool true), _ => .literal (.bool true)
  | a, .literal (.bool false) => a
  | a, b => .either a b

def foldCoalesce (a b : Expr) : Expr :=
  match a with
  | .literal .unit => b
  | .literal l => .literal l
  | a => .coalesce a b

/-! ## Statements -/

/-- Whether nothing after a statement is reached. -/
def Stmt.leaves : Stmt → Bool
  | .break_ _ | .continue_ | .return_ _ | .throw_ _ => true
  | _ => false

/-- Statements without those that cannot be reached and those whose value nobody takes and that have no
effect. Where `wanted`, the value of the last one is taken. -/
def pruned (wanted : Bool) : List Stmt → List Stmt
  | [] => []
  | [st] => if wanted || !st.isPure then [st] else []
  | st :: sts =>
    if st.leaves then [st]
    else if st.isPure then pruned wanted sts
    else st :: pruned wanted sts

def foldIf (c : Expr) (yes no : List Stmt) : Stmt :=
  match c with
  | .literal (.bool true) => .block yes
  | .literal (.bool false) => .block no
  | c => if yes.isEmpty && no.isEmpty then .block [.expr c, .skip] else .if_ c yes no

def foldWhile (c : Expr) (body : List Stmt) : Stmt :=
  match c with
  | .literal (.bool true) => .loop body
  | .literal (.bool false) => .skip
  | c => .while_ c body

/-- A `try` whose parts have been simplified; a body without effects needs no handler and has no
value. -/
def foldTry (body : List Stmt) (caught : Option String) (handler : List Stmt) : Stmt :=
  if bodyIsPure body then .block [] else .try_ body caught handler

mutual

def Expr.simplify : Expr → Expr
  | .array es => .array (simplifyAll es)
  | .map keys es => .map keys (simplifyAll es)
  | .template es => .template (simplifyAll es)
  | .both a b => foldBoth a.simplify b.simplify
  | .either a b => foldEither a.simplify b.simplify
  | .coalesce a b => foldCoalesce a.simplify b.simplify
  | .unary op a => foldUnary op a.simplify
  | .binary op a b => foldBinary op a.simplify b.simplify
  | .within a b => .within a.simplify b.simplify
  | .call f es => .call f (simplifyAll es)
  | .chain base steps => .chain base.simplify (simplifySteps steps)
  | .statement st => .statement st.simplify
  | e => e

def simplifyAll : List Expr → List Expr
  | [] => []
  | e :: es => e.simplify :: simplifyAll es

def Step.simplify : Step → Step
  | .index e => .index e.simplify
  | .property p => .property p
  | .method f es => .method f (simplifyAll es)

def simplifySteps : List Step → List Step
  | [] => []
  | st :: sts => st.simplify :: simplifySteps sts

def Stmt.simplify : Stmt → Stmt
  | .expr e => .expr e.simplify
  | .define v constant e => .define v constant e.simplify
  | .assign v path op e => .assign v (simplifySteps path) op e.simplify
  | .if_ c yes no => foldIf c.simplify (pruned true (simplifyEach yes)) (pruned true (simplifyEach no))
  | .while_ c body => foldWhile c.simplify (pruned false (simplifyEach body))
  | .loop body => .loop (pruned false (simplifyEach body))
  | .for_ item counter iterable body =>
    .for_ item counter iterable.simplify (pruned false (simplifyEach body))
  | .break_ e => .break_ e.simplify
  | .return_ e => .return_ e.simplify
  | .throw_ e => .throw_ e.simplify
  | .try_ body caught handler =>
    foldTry (pruned true (simplifyEach body)) caught (pruned false (simplifyEach handler))
  | .block body => .block (pruned true (simplifyEach body))
  | .continue_ => .continue_
  | .skip => .skip

def simplifyEach : List Stmt → List Stmt
  | [] => []
  | st :: sts => st.simplify :: simplifyEach sts

end

def simplifyBody (body : List Stmt) : List Stmt :=
  pruned true (simplifyEach body)

def Program.simplify (p : Program) : Program where
  functions := p.functions.map fun f => { f with body := simplifyBody f.body }
  body := simplifyBody p.body

end Worksheet.Script
