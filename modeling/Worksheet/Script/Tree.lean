import Worksheet.Script.Operator

/-!
# Scripts as trees

* `Expr` : expressions; `Step` : what may follow one, an index, a property or a call on it.
* `Stmt` : statements; a statement may stand where an expression is expected.
* `Function`, `Program` : the functions that a script defines, and its statements.
-/

namespace Worksheet.Script

inductive Literal
  | unit
  | bool (b : Bool)
  | int (n : Int64)
  | float (x : Float)
  | char (c : Char)
  | text (s : String)
  deriving Inhabited

def Literal.value : Literal → Value
  | unit => .unit
  | bool b => .bool b
  | int n => .int n
  | float x => .float x
  | char c => .char c
  | text s => .text s

def Literal.ofValue? : Value → Option Literal
  | .unit => some .unit
  | .bool b => some (.bool b)
  | .int n => some (.int n)
  | .float x => some (.float x)
  | .char c => some (.char c)
  | .text s => some (.text s)
  | _ => none

mutual

inductive Expr
  | literal (l : Literal)
  | name (s : String)
  /-- The value that a function was called on. -/
  | this
  | array (items : List Expr)
  /-- A map with these values under these keys. -/
  | map (keys : List String) (values : List Expr)
  /-- Text with embedded values. -/
  | template (parts : List Expr)
  | both (a b : Expr)
  | either (a b : Expr)
  /-- The second where the first is `()`. -/
  | coalesce (a b : Expr)
  | unary (op : UnaryOp) (a : Expr)
  | binary (op : BinaryOp) (a b : Expr)
  /-- Whether the container has the item. -/
  | within (container item : Expr)
  | call (function : String) (arguments : List Expr)
  | chain (base : Expr) (steps : List Step)
  /-- A statement for its value. -/
  | statement (s : Stmt)

/-- What follows a value in a chain. -/
inductive Step
  | index (e : Expr)
  | property (name : String)
  | method (function : String) (arguments : List Expr)

inductive Stmt
  | expr (e : Expr)
  | define (name : String) (constant : Bool) (value : Expr)
  /-- Stores a value in a variable, or in a place inside one; with an operator, combines it with what is
  there. -/
  | assign (name : String) (path : List Step) (op : Option BinaryOp) (value : Expr)
  | if_ (condition : Expr) (yes no : List Stmt)
  | while_ (condition : Expr) (body : List Stmt)
  | loop (body : List Stmt)
  /-- For each item of an iterable, with its number if there is a counter. -/
  | for_ (item : String) (counter : Option String) (iterable : Expr) (body : List Stmt)
  | break_ (value : Expr)
  | continue_
  | return_ (value : Expr)
  | throw_ (value : Expr)
  | try_ (body : List Stmt) (caught : Option String) (handler : List Stmt)
  | block (body : List Stmt)
  /-- Does nothing. -/
  | skip

end

instance : Inhabited Expr := ⟨.literal .unit⟩
instance : Inhabited Step := ⟨.property ""⟩
instance : Inhabited Stmt := ⟨.skip⟩

/-- Whether a statement needs no semicolon after it. -/
def Stmt.isClosed : Stmt → Bool
  | if_ .. | while_ .. | loop .. | for_ .. | try_ .. | block .. => true
  | _ => false

structure Function where
  name : String
  parameters : List String
  body : List Stmt

structure Program where
  functions : List Function
  body : List Stmt

def Program.function? (p : Program) (name : String) (arity : Nat) : Option Function :=
  p.functions.find? fun f => f.name = name ∧ f.parameters.length = arity

end Worksheet.Script
