import Worksheet.Script.Operator

/-!
# Tokens of scripts

* `Token` : the words and marks of a script.
* `Operator` : the marks between two operands; `Operator.level` says how tightly one binds.
* `Token.admitsSign` : whether a `-` after a token is the sign of a number.
-/

namespace Worksheet.Script

inductive Operator
  | binary (op : BinaryOp)
  | both
  | either
  | coalesce
  | within
  | notWithin
  deriving DecidableEq, Repr

namespace Operator

/-- How tightly an operator binds; higher levels bind tighter. -/
def level : Operator → Nat
  | either => 30
  | binary .bitOr | binary .bitXor => 30
  | both => 60
  | binary .bitAnd => 60
  | binary .eq | binary .ne => 90
  | within | notWithin => 110
  | binary .lt | binary .le | binary .gt | binary .ge => 130
  | coalesce => 135
  | binary .upTo | binary .upThrough => 140
  | binary .add | binary .sub => 150
  | binary .mul | binary .div | binary .rem => 180
  | binary .pow => 190
  | binary .shiftLeft | binary .shiftRight => 210

def groupsRight : Operator → Bool
  | binary .pow => true
  | _ => false

end Operator

inductive Keyword
  | true_ | false_ | let_ | const | if_ | else_ | while_ | loop | for_ | in_ | break_ | continue_
  | return_ | throw_ | try_ | catch_ | fn | private_ | this
  -- words of statements that are not read
  | switch_ | do_ | until_ | import_ | export_ | as_
  deriving DecidableEq, Repr

inductive Token
  | int (n : Int64)
  | float (x : Float)
  | char (c : Char)
  | text (s : String)
  /-- Text before a block that is embedded in it. -/
  | textBefore (s : String)
  | name (s : String)
  /-- A word that may only name a function; `method` says whether also one after a dot. -/
  | callable (s : String) (method : Bool)
  | keyword (k : Keyword)
  | operator (op : Operator)
  /-- `=`, or an operator and `=`. -/
  | assign (op : Option BinaryOp)
  | not
  | openParen | closeParen
  | openBracket | closeBracket
  | openBrace | closeBrace
  | openMap
  /-- `()` without anything between. -/
  | unit
  | comma | semicolon | colon | dot
  | arrow
  -- marks of scripts that are not read: `::`, `?.`, `?[` and `_`
  | colons | optionalDot | optionalBracket | underscore
  deriving Inhabited

/-- Whether a `-` right before a digit is that number's sign when it follows this token. -/
def Token.admitsSign : Token → Bool
  | operator _ | assign _ | not => true
  | openParen | openBracket | openBrace => true
  | comma | semicolon | colon => true
  | keyword .if_ | keyword .while_ | keyword .until_ | keyword .in_ | keyword .return_ | keyword .throw_ => true
  | _ => false

/-- Whether a token is the word `try` or one of these names. -/
def Token.handles (absorbers : List String) : Token → Bool
  | keyword .try_ => true
  | name s | callable s _ => absorbers.contains s
  | _ => false

end Worksheet.Script
