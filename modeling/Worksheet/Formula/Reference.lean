import Worksheet.Address.CellRef
import Worksheet.Formula.Literal
import Worksheet.Text.WordChar

/-!
# References in a formula

A formula names cells (`A1`) and ranges of cells (`A1:B5`); the script it stands for looks them up with
calls, `CELL(0, 0)` and `RANGE(0, 0, 1, 4)`, whose arguments are columns and rows counted from zero. A
name is a reference only where it stands as a whole word and outside quoted literals. The anchor `$` is
dropped from plain text wherever it stands.

* `Reference` : a cell or a range; `Reference.script` is its call.
* `matchAt?` : the reference candidate at the start of a text.
* `expandPlain` : plain text with its references replaced by calls.
* `toScript` : the script of a formula.
-/

namespace Worksheet.Formula

inductive Reference
  | cell (at_ : CellRef)
  | range (start stop : CellRef)
  deriving DecidableEq, Repr

def Reference.script : Reference → List Char
  | .cell r => "CELL(".toList ++ Nat.toDigits 10 r.column ++ ", ".toList ++ Nat.toDigits 10 r.row ++ [')']
  | .range a b =>
    "RANGE(".toList ++ Nat.toDigits 10 a.column ++ ", ".toList ++ Nat.toDigits 10 a.row ++ ", ".toList ++
      Nat.toDigits 10 b.column ++ ", ".toList ++ Nat.toDigits 10 b.row ++ [')']

/-! ## Candidates -/

def atWordEnd : List Char → Bool
  | [] => true
  | c :: _ => !Text.isWord c

def takeName? (cs : List Char) : Option (List Char × List Char) :=
  let letters := cs.takeWhile Char.isAlpha
  let (digits, rest) := Decimal.takeDigits (cs.dropWhile Char.isAlpha)
  if letters.isEmpty || digits.isEmpty then none else some (letters ++ digits, rest)

/-- A colon, with white space around it, and a name that ends a word: the name and the rest. -/
def takeRangeEnd? (cs : List Char) : Option (List Char × List Char) :=
  match cs.dropWhile Text.isWhiteSpace with
  | ':' :: cs => do
    let (name, rest) ← takeName? (cs.dropWhile Text.isWhiteSpace)
    if atWordEnd rest then some (name, rest) else none
  | _ => none

/-- One name, or two with a colon between them. -/
structure Candidate where
  first : List Char
  second : Option (List Char)
  /-- What follows the candidate. -/
  rest : List Char

/-- The candidate at the start of a word: a pair of names if there is one, else a single name that ends
the word. -/
def matchAt? (cs : List Char) : Option Candidate := do
  let (first, rest) ← takeName? cs
  match takeRangeEnd? rest with
  | some (second, rest) => some ⟨first, some second, rest⟩
  | none => if atWordEnd rest then some ⟨first, none, rest⟩ else none

def Candidate.reference? (m : Candidate) : Option Reference := do
  let first ← CellRef.ofChars? m.first
  match m.second with
  | some second => return .range first (← CellRef.ofChars? second)
  | none => return .cell first

/-! ## Expanding references -/

/-- Text with its references replaced by calls. `skip` characters belong to a candidate already dealt
with; `afterWord` says whether the character before the text is part of a word. -/
def expandFrom (skip : Nat) (afterWord : Bool) : List Char → List Char
  | [] => []
  | c :: cs =>
    match skip with
    | skip + 1 => expandFrom skip true cs
    | 0 =>
      match if afterWord then none else matchAt? (c :: cs) with
      | some m =>
        let length := cs.length + 1 - m.rest.length
        match m.reference? with
        | some r => r.script ++ expandFrom (length - 1) true cs
        | none => (c :: cs).take length ++ expandFrom (length - 1) true cs
      | none => c :: expandFrom 0 (Text.isWord c) cs

/-- Plain text without anchors and with its references replaced by calls. -/
def expandPlain (cs : List Char) : List Char :=
  expandFrom 0 false (cs.filter (· != '$'))

def toScript (formula : String) : String :=
  String.ofList (mapPlain expandPlain formula.toList)

end Worksheet.Formula
