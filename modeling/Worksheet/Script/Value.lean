import Worksheet.Decimal.Layout
import Worksheet.ErrorCode

/-!
# Values of scripts

What a script computes with, and how a value reads when it is joined to text.

* `Value` : the values; maps list their entries in ascending order of the keys.
* `Value.joined` : the text of a value; `Value.nested` : its text inside an array or a map.
* `Value.typeName` : the name of its type.
-/

namespace Worksheet.Script

inductive Value
  | unit
  | bool (b : Bool)
  | int (n : Int64)
  | float (x : Float)
  | char (c : Char)
  | text (s : String)
  | array (items : List Value)
  | map (entries : List (String × Value))
  | range (first last : Int64) (inclusive : Bool)
  /-- A function, by name. -/
  | function (name : String)
  /-- The code of a failed evaluation, as a handler receives it. -/
  | code (c : ErrorCode)
  deriving Inhabited

namespace Value

/-! ## Text -/

def escape (c : Char) : String :=
  if c = '"' then "\\\""
  else if c = '\\' then "\\\\"
  else if c = '\n' then "\\n"
  else if c = '\r' then "\\r"
  else if c = '\t' then "\\t"
  else if c = '\x00' then "\\0"
  else if c.toNat < 0x20 ∨ c.toNat = 0x7F then
    "\\u\x7b" ++ String.ofList (Nat.toDigits 16 c.toNat) ++ "\x7d"
  else String.singleton c

def quote (s : String) : String :=
  "\"" ++ String.join (s.toList.map escape) ++ "\""

/-- The text of a code; codes have no text of their own. -/
def codeText : String := "gridcalc_engine::engine::error::ErrorCode"

mutual

def nested : Value → String
  | unit => "()"
  | bool b => if b then "true" else "false"
  | int n => toString n.toInt
  | float x => Decimal.inText.text x
  | char c => String.singleton c
  | text s => quote s
  | array items => "[" ++ ", ".intercalate (nestedItems items) ++ "]"
  | map entries => "#\x7b" ++ ", ".intercalate (nestedEntries entries) ++ "\x7d"
  | range first last inclusive =>
    toString first.toInt ++ (if inclusive then "..=" else "..") ++ toString last.toInt
  | function name => "Fn(" ++ name ++ ")"
  | code _ => codeText

def nestedItems : List Value → List String
  | [] => []
  | v :: vs => v.nested :: nestedItems vs

def nestedEntries : List (String × Value) → List String
  | [] => []
  | (k, v) :: es => (quote k ++ ": " ++ v.nested) :: nestedEntries es

end

/-- The text of a value that is joined to text: nothing for `()`, a text as it is. -/
def joined : Value → String
  | unit => ""
  | text s => s
  | v => v.nested

def typeName : Value → String
  | unit => "()"
  | bool _ => "bool"
  | int _ => "i64"
  | float _ => "f64"
  | char _ => "char"
  | text _ => "string"
  | array _ => "array"
  | map _ => "map"
  | range _ _ inclusive => if inclusive then "range=" else "range"
  | function _ => "Fn"
  | code _ => codeText

/-! ## Maps -/

def entry (key : String) (entries : List (String × Value)) : Value :=
  (entries.lookup key).getD unit

def setEntry (key : String) (value : Value) : List (String × Value) → List (String × Value)
  | [] => [(key, value)]
  | (k, v) :: es =>
    if key < k then (key, value) :: (k, v) :: es
    else if key = k then (key, value) :: es
    else (k, v) :: setEntry key value es

end Value

end Worksheet.Script
