import Worksheet.Script.Lexer
import Worksheet.Script.Tree

/-!
# Reading scripts

The tree of a list of tokens. Operators group by their levels; expressions may be nested to a limit only,
where each further operator in a row counts as one more level. Some mistakes with types are found here
already: a literal that is not a truth value as a condition, and a literal that cannot be an index.

This is a part of the engine's language. Left out are `switch`, `do` with `while` or `until`, `import`, `export` and
names with `::`, functions without a name, functions of a type, `?.` and `?[`; a script with one of them is taken for
malformed here, where the engine would run it.

Every reader takes a number of steps that it may use up, a `Setting` and the tokens, and answers what it
read and the tokens after it. `Program.ofTokens?` allows more steps than there can be.

* `expr`, `operators`, `unary`, `primary`, `steps` : expressions.
* `statement`, `block` : statements.
* `Program.ofTokens?`, `Program.parse?` : whole scripts.
-/

namespace Worksheet.Script.Parser

structure Setting where
  /-- How many more levels may be nested. -/
  room : Nat
  inLoop : Bool
  inFunction : Bool

def Setting.deeper (s : Setting) : Option Setting :=
  match s.room with
  | 0 => none
  | room + 1 => some { s with room := room }

-- The two limits are the engine's in a debug build. A release build allows more.

/-- How deeply a script may be nested. -/
def scriptRoom : Nat := 32

/-- How deeply the body of a function may be nested. -/
def functionRoom : Nat := 16

/-! ## Building trees -/

/-- An expression with a minus before it; numbers take it as their sign. The least integer has no
negative and becomes a float. -/
def negated : Expr → Expr
  | .literal (.int n) =>
    if n = Int64.minValue then .literal (.float (-Decimal.ofInt n.toInt)) else .literal (.int (-n))
  | .literal (.float x) => .literal (.float (-x))
  | e => .unary .minus e

def unnegated : Expr → Expr
  | .literal (.int n) => .literal (.int n)
  | .literal (.float x) => .literal (.float x)
  | e => .unary .plus e

def mayBeBool : Expr → Bool
  | .literal (.bool _) => true
  | .literal _ | .array _ | .map .. | .template _ => false
  | _ => true

def mayBeIterable : Expr → Bool
  | .literal (.text _) => true
  | .literal _ | .both .. | .either .. | .map .. => false
  | _ => true

/-- Whether an expression may turn out to have an element at an index. -/
def mayBeIndexed (base index : Expr) : Bool :=
  match base with
  | .map .. =>
    match index with
    | .literal (.text _) => true
    | .literal _ | .both .. | .either .. => false
    | _ => true
  | .literal (.int _) | .literal (.text _) | .array _ | .template _ =>
    match index with
    | .literal (.int _) => true
    | .literal _ | .both .. | .either .. | .template _ => false
    | _ => true
  | .literal _ | .both .. | .either .. => false
  | _ => true

def combined (op : Operator) (a b : Expr) : Option Expr :=
  match op with
  | .binary op => some (.binary op a b)
  | .both => if mayBeBool a && mayBeBool b then some (.both a b) else none
  | .either => if mayBeBool a && mayBeBool b then some (.either a b) else none
  | .coalesce => some (.coalesce a b)
  | .within => some (.within b a)
  | .notWithin => some (.unary .not (.within b a))

def chained (base : Expr) (steps : List Step) : Option Expr :=
  match steps with
  | [] => some base
  | .index e :: _ => if mayBeIndexed base e then some (.chain base steps) else none
  | _ => some (.chain base steps)

def isPlace (steps : List Step) : Bool :=
  match steps.getLast? with
  | some (.method ..) => false
  | _ => true

/-- The assignment of a value to the place that an expression denotes, if it is one. -/
def assigned (target : Expr) (op : Option BinaryOp) (value : Expr) : Option Stmt :=
  match target with
  | .name s => some (.assign s [] op value)
  | .chain (.name s) steps => if isPlace steps then some (.assign s steps op value) else none
  | _ => none

/-- The names between a function's parentheses, after the first. -/
def names : List Token → Option (List String × List Token)
  | .closeParen :: ts => some ([], ts)
  | .name s :: .closeParen :: ts => some ([s], ts)
  | .name s :: .comma :: ts => (names ts).map fun (ss, rest) => (s :: ss, rest)
  | _ => none

def parameters : List Token → Option (List String × List Token)
  | .unit :: ts => some ([], ts)
  | .openParen :: ts => do
    let (ss, rest) ← names ts
    if ss.eraseDups.length = ss.length then some (ss, rest) else none
  | _ => none

def loopNames : List Token → Option ((String × Option String) × List Token)
  | .name s :: ts => some ((s, none), ts)
  | .openParen :: .name s :: .comma :: .name i :: .closeParen :: ts =>
    if s = i then none else some ((s, some i), ts)
  | _ => none

def endsHere : List Token → Bool
  | [] | .closeBrace :: _ | .semicolon :: _ => true
  | _ => false

/-! ## Readers -/

mutual

def expr (fuel : Nat) (s : Setting) (ts : List Token) : Option (Expr × List Token) :=
  match fuel with
  | 0 => none
  | fuel + 1 => do
    let s ← s.deeper
    let (a, ts) ← unary fuel s ts
    operators fuel s 0 a ts

/-- The operators and operands after the operand `a`, up to one that binds no tighter than `level`. -/
def operators (fuel : Nat) (s : Setting) (level : Nat) (a : Expr) (ts : List Token) :
    Option (Expr × List Token) :=
  match fuel with
  | 0 => none
  | fuel + 1 =>
    match ts with
    | .operator op :: rest =>
      if op.level < level ∨ (op.level = level ∧ !op.groupsRight) then some (a, ts)
      else do
        let (b, rest) ← unary fuel s rest
        let (b, rest) ← match rest with
          | .operator next :: _ =>
            if op.level < next.level ∨ (op.level = next.level ∧ op.groupsRight) then
              operators fuel s op.level b rest
            else some (b, rest)
          | _ => some (b, rest)
        let s ← s.deeper
        let e ← combined op a b
        operators fuel s level e rest
    | _ => some (a, ts)

/-- An operand with the operators before it. -/
def unary (fuel : Nat) (s : Setting) (ts : List Token) : Option (Expr × List Token) :=
  match fuel with
  | 0 => none
  | fuel + 1 =>
    match ts with
    | .operator (.binary .sub) :: ts => do
      let (e, ts) ← unary fuel (← s.deeper) ts
      return (negated e, ts)
    | .operator (.binary .add) :: ts => do
      let (e, ts) ← unary fuel (← s.deeper) ts
      return (unnegated e, ts)
    | .not :: ts => do
      let (e, ts) ← unary fuel (← s.deeper) ts
      return (.unary .not e, ts)
    | ts => do
      let (e, ts) ← primary fuel s ts
      let (more, ts) ← steps fuel s ts
      return (← chained e more, ts)

/-- An operand without what may follow it. -/
def primary (fuel : Nat) (s : Setting) (ts : List Token) : Option (Expr × List Token) :=
  match fuel with
  | 0 => none
  | fuel + 1 =>
    match ts with
    | .int n :: ts => some (.literal (.int n), ts)
    | .float x :: ts => some (.literal (.float x), ts)
    | .char c :: ts => some (.literal (.char c), ts)
    | .text t :: ts => some (.literal (.text t), ts)
    | .keyword .true_ :: ts => some (.literal (.bool true), ts)
    | .keyword .false_ :: ts => some (.literal (.bool false), ts)
    | .unit :: ts => some (.literal .unit, ts)
    | .name f :: .not :: .unit :: ts => some (.call f [], ts)
    | .name f :: .not :: .openParen :: ts => do
      let (es, ts) ← arguments fuel (← s.deeper) ts
      return (.call f es, ts)
    | .name f :: .unit :: ts => some (.call f [], ts)
    | .name f :: .openParen :: ts => do
      let (es, ts) ← arguments fuel (← s.deeper) ts
      return (.call f es, ts)
    | .name v :: ts => some (.name v, ts)
    | .callable f _ :: .unit :: ts => some (.call f [], ts)
    | .callable f _ :: .openParen :: ts => do
      let (es, ts) ← arguments fuel (← s.deeper) ts
      return (.call f es, ts)
    | .keyword .this :: ts => if s.inFunction then some (.this, ts) else none
    | .openParen :: .closeParen :: ts => some (.literal .unit, ts)
    | .openParen :: ts => do
      let (e, ts) ← expr fuel (← s.deeper) ts
      match ts with
      | .closeParen :: ts => return (e, ts)
      | _ => none
    | .openBracket :: ts => do
      let (es, ts) ← items fuel (← s.deeper) ts
      return (.array es, ts)
    | .openMap :: ts => do
      let (es, ts) ← entries fuel (← s.deeper) [] ts
      return (.map (es.map (·.1)) (es.map (·.2)), ts)
    | .textBefore _ :: _ => do
      let (parts, ts) ← pieces fuel (← s.deeper) ts
      return (.template parts, ts)
    | .openBrace :: ts => do
      let (body, ts) ← statements fuel (← s.deeper) ts
      return (.statement (.block body), ts)
    | .keyword .if_ :: ts => do
      let (st, ts) ← conditional fuel (← s.deeper) ts
      return (.statement st, ts)
    | .keyword .while_ :: _ | .keyword .loop :: _ | .keyword .for_ :: _ => do
      let (st, ts) ← repetition fuel (← s.deeper) ts
      return (.statement st, ts)
    | _ => none

def steps (fuel : Nat) (s : Setting) (ts : List Token) : Option (List Step × List Token) :=
  match fuel with
  | 0 => none
  | fuel + 1 =>
    match ts with
    | .openBracket :: ts => do
      let s ← s.deeper
      let (e, ts) ← expr fuel s ts
      match ts with
      | .closeBracket :: ts =>
        let (more, ts) ← steps fuel s ts
        return (.index e :: more, ts)
      | _ => none
    | .dot :: .name f :: ts => do
      let s ← s.deeper
      step fuel s f true ts
    | .dot :: .callable f true :: ts => do
      let s ← s.deeper
      step fuel s f false ts
    | .dot :: _ => none
    | ts => some ([], ts)

/-- What follows a dot and the name `f`: a call, or, where `f` may be one, a property. -/
def step (fuel : Nat) (s : Setting) (f : String) (mayBeProperty : Bool) (ts : List Token) :
    Option (List Step × List Token) :=
  match fuel with
  | 0 => none
  | fuel + 1 =>
    match ts with
    | .unit :: ts => do
      let (more, ts) ← steps fuel s ts
      return (.method f [] :: more, ts)
    | .openParen :: ts => do
      let (es, ts) ← arguments fuel (← s.deeper) ts
      let (more, ts) ← steps fuel s ts
      return (.method f es :: more, ts)
    | ts => do
      if mayBeProperty then
        let (more, ts) ← steps fuel s ts
        return (.property f :: more, ts)
      else none

def arguments (fuel : Nat) (s : Setting) (ts : List Token) : Option (List Expr × List Token) :=
  match fuel with
  | 0 => none
  | fuel + 1 =>
    match ts with
    | .closeParen :: ts => some ([], ts)
    | ts => do
      let (e, ts) ← expr fuel s ts
      match ts with
      | .closeParen :: ts => return ([e], ts)
      | .comma :: ts =>
        let (es, ts) ← arguments fuel s ts
        return (e :: es, ts)
      | _ => none

def items (fuel : Nat) (s : Setting) (ts : List Token) : Option (List Expr × List Token) :=
  match fuel with
  | 0 => none
  | fuel + 1 =>
    match ts with
    | .closeBracket :: ts => some ([], ts)
    | ts => do
      let (e, ts) ← expr fuel s ts
      match ts with
      | .closeBracket :: ts => return ([e], ts)
      | .comma :: ts =>
        let (es, ts) ← items fuel s ts
        return (e :: es, ts)
      | _ => none

/-- The entries of a map, after the opening brace; no key may be among `seen`, the keys before. -/
def entries (fuel : Nat) (s : Setting) (seen : List String) (ts : List Token) :
    Option (List (String × Expr) × List Token) :=
  match fuel with
  | 0 => none
  | fuel + 1 =>
    match ts with
    | .closeBrace :: ts => some ([], ts)
    | .name key :: .colon :: ts => entry fuel s seen key ts
    | .text key :: .colon :: ts => entry fuel s seen key ts
    | _ => none

def entry (fuel : Nat) (s : Setting) (seen : List String) (key : String) (ts : List Token) :
    Option (List (String × Expr) × List Token) :=
  match fuel with
  | 0 => none
  | fuel + 1 =>
    if seen.contains key then none
    else do
      let (e, ts) ← expr fuel s ts
      match ts with
      | .closeBrace :: ts => return ([(key, e)], ts)
      | .comma :: ts =>
        let (es, ts) ← entries fuel s (key :: seen) ts
        return ((key, e) :: es, ts)
      | _ => none

def pieces (fuel : Nat) (s : Setting) (ts : List Token) : Option (List Expr × List Token) :=
  match fuel with
  | 0 => none
  | fuel + 1 =>
    match ts with
    | .text t :: ts => some (if t = "" then [] else [.literal (.text t)], ts)
    | .textBefore t :: .openBrace :: ts => do
      let (body, ts) ← statements fuel s ts
      let (es, ts) ← pieces fuel s ts
      let e := Expr.statement (.block body)
      return (if t = "" then e :: es else .literal (.text t) :: e :: es, ts)
    | _ => none

def statements (fuel : Nat) (s : Setting) (ts : List Token) : Option (List Stmt × List Token) :=
  match fuel with
  | 0 => none
  | fuel + 1 =>
    match ts with
    | .closeBrace :: ts => some ([], ts)
    | .semicolon :: ts => statements fuel s ts
    | ts => do
      let (st, ts) ← statement fuel s ts
      match ts with
      | .closeBrace :: ts => return ([st], ts)
      | .semicolon :: ts =>
        let (more, ts) ← statements fuel s ts
        return (st :: more, ts)
      | ts =>
        if st.isClosed then
          let (more, ts) ← statements fuel s ts
          return (st :: more, ts)
        else none

def block (fuel : Nat) (s : Setting) (ts : List Token) : Option (List Stmt × List Token) :=
  match fuel with
  | 0 => none
  | fuel + 1 =>
    match ts with
    | .openBrace :: ts => do statements fuel (← s.deeper) ts
    | _ => none

def value (fuel : Nat) (s : Setting) (ts : List Token) : Option (Expr × List Token) :=
  match fuel with
  | 0 => none
  | fuel + 1 => if endsHere ts then some (.literal .unit, ts) else expr fuel s ts

def statement (fuel : Nat) (s : Setting) (ts : List Token) : Option (Stmt × List Token) :=
  match fuel with
  | 0 => none
  | fuel + 1 =>
    match ts with
    | .openBrace :: ts => do
      let (body, ts) ← statements fuel (← s.deeper) ts
      return (.block body, ts)
    | .keyword .if_ :: ts => do conditional fuel (← s.deeper) ts
    | .keyword .while_ :: _ | .keyword .loop :: _ | .keyword .for_ :: _ => do
      repetition fuel (← s.deeper) ts
    | .keyword .try_ :: ts => do
      let s ← s.deeper
      let (body, ts) ← block fuel s ts
      match ts with
      | .keyword .catch_ :: .openParen :: .name v :: .closeParen :: ts =>
        let (handler, ts) ← block fuel s ts
        return (.try_ body (some v) handler, ts)
      | .keyword .catch_ :: ts =>
        let (handler, ts) ← block fuel s ts
        return (.try_ body none handler, ts)
      | _ => none
    | .keyword .let_ :: .name v :: ts => definition fuel s v false ts
    | .keyword .const :: .name v :: ts => definition fuel s v true ts
    | .keyword .continue_ :: ts => if s.inLoop then some (.continue_, ts) else none
    | .keyword .break_ :: ts => do
      if s.inLoop then
        let (e, ts) ← value fuel s ts
        return (.break_ e, ts)
      else none
    | .keyword .return_ :: ts => do
      let (e, ts) ← value fuel s ts
      return (.return_ e, ts)
    | .keyword .throw_ :: ts => do
      let (e, ts) ← value fuel s ts
      return (.throw_ e, ts)
    | ts => do
      let (e, ts) ← expr fuel s ts
      match ts with
      | .assign op :: ts =>
        let (v, ts) ← expr fuel s ts
        return (← assigned e op v, ts)
      | ts => return (.expr e, ts)

def definition (fuel : Nat) (s : Setting) (v : String) (constant : Bool) (ts : List Token) :
    Option (Stmt × List Token) :=
  match fuel with
  | 0 => none
  | fuel + 1 =>
    match ts with
    | .assign none :: ts => do
      let (e, ts) ← expr fuel (← s.deeper) ts
      return (.define v constant e, ts)
    | ts => some (.define v constant (.literal .unit), ts)

def conditional (fuel : Nat) (s : Setting) (ts : List Token) : Option (Stmt × List Token) :=
  match fuel with
  | 0 => none
  | fuel + 1 => do
    let (c, ts) ← expr fuel s ts
    if mayBeBool c then
      let (yes, ts) ← block fuel s ts
      match ts with
      | .keyword .else_ :: .keyword .if_ :: ts =>
        let (no, ts) ← conditional fuel (← s.deeper) ts
        return (.if_ c yes [no], ts)
      | .keyword .else_ :: ts =>
        let (no, ts) ← block fuel s ts
        return (.if_ c yes no, ts)
      | ts => return (.if_ c yes [], ts)
    else none

def repetition (fuel : Nat) (s : Setting) (ts : List Token) : Option (Stmt × List Token) :=
  match fuel with
  | 0 => none
  | fuel + 1 =>
    match ts with
    | .keyword .while_ :: ts => do
      let (c, ts) ← expr fuel s ts
      if mayBeBool c then
        let (body, ts) ← block fuel { s with inLoop := true } ts
        return (.while_ c body, ts)
      else none
    | .keyword .loop :: ts => do
      let (body, ts) ← block fuel { s with inLoop := true } ts
      return (.loop body, ts)
    | .keyword .for_ :: ts => do
      let ((item, counter), ts) ← loopNames ts
      match ts with
      | .operator .within :: ts =>
        let (iterable, ts) ← expr fuel s ts
        if mayBeIterable iterable then
          let (body, ts) ← block fuel { s with inLoop := true } ts
          return (.for_ item counter iterable body, ts)
        else none
      | _ => none
    | _ => none

end

/-! ## Whole scripts -/

def functionName : Token → Option String
  | .name f | .callable f _ => some f
  | _ => none

def function (fuel : Nat) (ts : List Token) : Option (Function × List Token) :=
  match ts with
  | t :: ts => do
    let name ← functionName t
    let (parameters, ts) ← parameters ts
    let (body, ts) ← block fuel ⟨functionRoom, false, true⟩ ts
    return (⟨name, parameters, body⟩, ts)
  | [] => none

/-- A program with one more function before the others; it may not be defined twice. -/
def withFunction (f : Function) (p : Program) : Option Program :=
  if (p.function? f.name f.parameters.length).isSome then none
  else some { p with functions := f :: p.functions }

/-- A program with one more statement before the others. -/
def withStatement (st : Stmt) (p : Program) : Program :=
  { p with body := st :: p.body }

def program (fuel : Nat) (ts : List Token) : Option Program :=
  match fuel with
  | 0 => none
  | fuel + 1 =>
    match ts with
    | [] => some ⟨[], []⟩
    | .semicolon :: ts => program fuel ts
    | .keyword .fn :: ts | .keyword .private_ :: .keyword .fn :: ts => do
      let (f, ts) ← function fuel ts
      withFunction f (← program fuel ts)
    | ts => do
      let (st, ts) ← statement fuel ⟨scriptRoom, false, false⟩ ts
      match ts with
      | [] => return ⟨[], [st]⟩
      | .semicolon :: ts => return withStatement st (← program fuel ts)
      | ts => if st.isClosed then return withStatement st (← program fuel ts) else none

end Parser

/-- The script that tokens make up. Between one token and the next no reader takes more than a dozen
steps. -/
def Program.ofTokens? (ts : List Token) : Option Program :=
  Parser.program (16 * ts.length + 16) ts

def Program.parse? (script : String) : Option Program := do
  Program.ofTokens? (← Lexer.tokens? script)

end Worksheet.Script
