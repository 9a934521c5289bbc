import Worksheet.Decimal.Numeral
import Worksheet.Text.JsonString
import Worksheet.Toml.Table

/-!
# Reading TOML

The text form of a document of settings, version 1.0: a comment, a header or a key with its value on each
line.

* `readKey` : keys, which may be dotted and quoted.
* `readString` : the four kinds of strings.
* `scalar?` : numbers, truth values, dates and times.
* `readValue` : values.
* `parse?` : whole documents.
-/

namespace Worksheet.Toml

-- powers of numbers are those of `Nat.pow` and `Int.pow`
attribute [local instance (high)] instPowNat

/-! ## Blanks, line breaks and comments -/

def isBlank (c : Char) : Bool :=
  c = ' ' || c = '\t'

def skipBlanks (cs : List Char) : List Char :=
  cs.dropWhile isBlank

/-- Control characters; none but the tab may stand in strings and comments. -/
def isControl (c : Char) : Bool :=
  (c.toNat < 0x20 && c != '\t') || c.toNat = 0x7F

def lineBreak? : List Char → Option (List Char)
  | '\n' :: cs => some cs
  | '\r' :: '\n' :: cs => some cs
  | _ => none

def skipComment : List Char → List Char
  | '#' :: cs => cs.dropWhile fun c => !isControl c
  | cs => cs

/-- The rest after the end of a line, where only blanks and a comment may stand before it. -/
def endOfLine? (cs : List Char) : Option (List Char) :=
  match skipComment (skipBlanks cs) with
  | [] => some []
  | cs => lineBreak? cs

def skipLines : Nat → List Char → List Char
  | 0, cs => cs
  | fuel + 1, cs =>
    let cs := skipComment (skipBlanks cs)
    match lineBreak? cs with
    | some cs => skipLines fuel cs
    | none => cs

/-! ## Strings -/

def readEscape : List Char → Option (Char × List Char)
  | 'b' :: cs => some ('\x08', cs)
  | 't' :: cs => some ('\t', cs)
  | 'n' :: cs => some ('\n', cs)
  | 'f' :: cs => some ('\x0c', cs)
  | 'r' :: cs => some ('\r', cs)
  | '"' :: cs => some ('"', cs)
  | '\\' :: cs => some ('\\', cs)
  | 'u' :: cs => ofHex 4 cs
  | 'U' :: cs => ofHex 8 cs
  | _ => none
where
  /-- The character whose number stands in so many hexadecimal digits. -/
  ofHex (width : Nat) (cs : List Char) : Option (Char × List Char) := do
    let ds ← (cs.take width).mapM Text.JsonString.hexValue?
    let n := ds.foldl (fun n d => 16 * n + d) 0
    if ds.length = width ∧ n.isValidChar then some (Char.ofNat n, cs.drop width) else none

/-- A text up to and with its closing mark on one line; `read` is what has been read, in reverse, and
`skip` characters of an escape have been dealt with. -/
def lineString (mark : Char) (skip : Nat) (read : List Char) : List Char → Option (String × List Char)
  | [] => none
  | c :: cs =>
    match skip with
    | skip + 1 => lineString mark skip read cs
    | 0 =>
      if c = mark then some (String.ofList read.reverse, cs)
      else if isControl c then none
      else if c = '\\' ∧ mark = '"' then
        match readEscape cs with
        | some (d, rest) => lineString mark (cs.length - rest.length) (d :: read) cs
        | none => none
      else lineString mark 0 (c :: read) cs

/-- What follows a backslash at the end of a line: the next character that is not blank. -/
def afterJoin? (cs : List Char) : Option (List Char) :=
  (lineBreak? (skipBlanks cs)).map fun cs =>
    cs.dropWhile fun c => isBlank c || c = '\n' || c = '\r'

/-- A text over several lines, up to and with its closing marks. Up to two marks may stand before the
three that close it. -/
def blockString (mark : Char) (skip : Nat) (read : List Char) : List Char → Option (String × List Char)
  | [] => none
  | c :: cs =>
    match skip with
    | skip + 1 => blockString mark skip read cs
    | 0 =>
      if c = mark then
        let marks := 1 + (cs.takeWhile (· = mark)).length
        if marks < 3 then blockString mark 0 (c :: read) cs
        else if 5 < marks then none
        else some (String.ofList (List.replicate (marks - 3) mark ++ read).reverse, cs.drop (marks - 1))
      else if c = '\n' then blockString mark 0 ('\n' :: read) cs
      else if c = '\r' then
        match cs with
        | '\n' :: _ => blockString mark 1 ('\n' :: read) cs
        | _ => none
      else if isControl c then none
      else if c = '\\' ∧ mark = '"' then
        match afterJoin? cs with
        | some rest => blockString mark (cs.length - rest.length) read cs
        | none =>
          match readEscape cs with
          | some (d, rest) => blockString mark (cs.length - rest.length) (d :: read) cs
          | none => none
      else blockString mark 0 (c :: read) cs

def dropLineBreak (cs : List Char) : List Char :=
  (lineBreak? cs).getD cs

def readString : List Char → Option (String × List Char)
  | '"' :: '"' :: '"' :: cs => blockString '"' 0 [] (dropLineBreak cs)
  | '\'' :: '\'' :: '\'' :: cs => blockString '\'' 0 [] (dropLineBreak cs)
  | '"' :: cs => lineString '"' 0 [] cs
  | '\'' :: cs => lineString '\'' 0 [] cs
  | _ => none

/-! ## Keys -/

def isKeyPart (c : Char) : Bool :=
  c.isAlphanum || c = '_' || c = '-'

def readKeyPart (cs : List Char) : Option (String × List Char) :=
  match cs with
  | '"' :: cs => lineString '"' 0 [] cs
  | '\'' :: cs => lineString '\'' 0 [] cs
  | cs =>
    let part := cs.takeWhile isKeyPart
    if part.isEmpty then none else some (String.ofList part, cs.dropWhile isKeyPart)

def readKey : Nat → List Char → Option (List String × List Char)
  | 0, _ => none
  | fuel + 1, cs => do
    let (part, rest) ← readKeyPart (skipBlanks cs)
    match skipBlanks rest with
    | '.' :: rest =>
      let (parts, rest) ← readKey fuel rest
      return (part :: parts, rest)
    | rest => return ([part], rest)

/-! ## Numbers, truth values, dates and times -/

/-- The digits of a number, if single underscores stand between digits only. -/
def digits? (isDigit : Char → Bool) : List Char → Option (List Char)
  | [] => none
  | [c] => if isDigit c then some [c] else none
  | c :: '_' :: cs => if isDigit c then (digits? isDigit cs).map (c :: ·) else none
  | c :: cs => if isDigit c then (digits? isDigit cs).map (c :: ·) else none

def isDigitOf (base : Nat) (c : Char) : Bool :=
  match Text.JsonString.hexValue? c with
  | some d => d < base
  | none => false

def word? (n : Int) : Option Value :=
  if -(2 ^ (63 : Nat)) ≤ n ∧ n < 2 ^ (63 : Nat) then some (.int n) else none

def based? (base : Nat) (cs : List Char) : Option Value := do
  let ds ← digits? (isDigitOf base) cs
  let values ← ds.mapM Text.JsonString.hexValue?
  word? (Int.ofNat (values.foldl (fun n d => base * n + d) 0))

def takeSign : List Char → Bool × List Char
  | '-' :: cs => (true, cs)
  | '+' :: cs => (false, cs)
  | cs => (false, cs)

/-- The digits of a whole number in decimal, which has no leading zeros. -/
def whole? (cs : List Char) : Option (List Char) := do
  let ds ← digits? Char.isDigit cs
  if ds.head? = some '0' ∧ ds.length ≠ 1 then none else some ds

def decimal? (cs : List Char) : Option Value := do
  let (negative, cs) := takeSign cs
  let ds ← whole? cs
  let n : Int := Decimal.ofDigits ds
  word? (if negative then -n else n)

def isFloat (cs : List Char) : Bool :=
  let cs := (takeSign cs).2
  if cs = "inf".toList ∨ cs = "nan".toList then true
  else
    let isMark (c : Char) : Bool := c = 'e' || c = 'E'
    let base := cs.takeWhile (!isMark ·)
    let power := cs.dropWhile (!isMark ·)
    let whole := base.takeWhile (· != '.')
    let fraction := base.dropWhile (· != '.')
    (whole? whole).isSome && (fraction.isEmpty || (digits? Char.isDigit (fraction.drop 1)).isSome) &&
      (power.isEmpty || (digits? Char.isDigit (takeSign (power.drop 1)).2).isSome) &&
      !(fraction.isEmpty && power.isEmpty)

def isPair (least greatest : Nat) (a b : Char) : Bool :=
  a.isDigit && b.isDigit && (least ≤ Decimal.ofDigits [a, b] && Decimal.ofDigits [a, b] ≤ greatest)

def isOffset : List Char → Bool
  | [] | ['Z'] | ['z'] => true
  | [s, h₁, h₂, ':', m₁, m₂] => (s = '+' || s = '-') && isPair 0 23 h₁ h₂ && isPair 0 59 m₁ m₂
  | _ => false

def time? : List Char → Option (List Char)
  | h₁ :: h₂ :: ':' :: m₁ :: m₂ :: ':' :: s₁ :: s₂ :: cs =>
    if isPair 0 23 h₁ h₂ && isPair 0 59 m₁ m₂ && isPair 0 60 s₁ s₂ then
      match cs with
      | '.' :: c :: cs => if c.isDigit then some (cs.dropWhile Char.isDigit) else none
      | '.' :: [] => none
      | cs => some cs
    else none
  | _ => none

def date? : List Char → Option (List Char)
  | y₁ :: y₂ :: y₃ :: y₄ :: '-' :: m₁ :: m₂ :: '-' :: d₁ :: d₂ :: cs =>
    if [y₁, y₂, y₃, y₄].all Char.isDigit && isPair 1 12 m₁ m₂ && isPair 1 31 d₁ d₂ then some cs
    else none
  | _ => none

def isMoment (cs : List Char) : Bool :=
  match date? cs with
  | some [] => true
  | some (t :: cs) =>
    (t = 'T' || t = 't' || t = ' ') &&
      match time? cs with
      | some rest => isOffset rest
      | none => false
  | none => time? cs = some []

/-- The value of a text without quotation marks or brackets. -/
def scalar? (cs : List Char) : Option Value :=
  if cs = "true".toList then some (.bool true)
  else if cs = "false".toList then some (.bool false)
  else
    match cs with
    | '0' :: 'x' :: ds => based? 16 ds
    | '0' :: 'o' :: ds => based? 8 ds
    | '0' :: 'b' :: ds => based? 2 ds
    | cs => decimal? cs <|> if isFloat cs || isMoment cs then some .other else none

def isScalarPart (c : Char) : Bool :=
  c.isAlphanum || c = '+' || c = '-' || c = '_' || c = '.' || c = ':'

/-- Takes such a text from the start; a date may have a blank before its time. -/
def takeScalar (cs : List Char) : List Char × List Char :=
  let first := cs.takeWhile isScalarPart
  match cs.dropWhile isScalarPart with
  | ' ' :: c :: rest =>
    if date? first = some [] ∧ c.isDigit then
      (first ++ ' ' :: (c :: rest).takeWhile isScalarPart, (c :: rest).dropWhile isScalarPart)
    else (first, ' ' :: c :: rest)
  | rest => (first, rest)

/-! ## Values -/

mutual

def readValue (fuel : Nat) (cs : List Char) : Option (Value × List Char) :=
  match fuel with
  | 0 => none
  | fuel + 1 =>
    match cs with
    | '"' :: _ | '\'' :: _ => (readString cs).map fun (s, rest) => (.text s, rest)
    | '[' :: cs => (readItems fuel [] cs).map fun (items, rest) => (.array items, rest)
    | '{' :: cs =>
      match skipBlanks cs with
      | '}' :: cs => some (.table .inline [], cs)
      | cs => (readMembers fuel [] cs).map fun (es, rest) => (.table .inline es, rest)
    | cs =>
      let (word, rest) := takeScalar cs
      (scalar? word).map (·, rest)

def readItems (fuel : Nat) (read : List Value) (cs : List Char) : Option (List Value × List Char) :=
  match fuel with
  | 0 => none
  | fuel + 1 =>
    match skipLines cs.length cs with
    | ']' :: cs => some (read.reverse, cs)
    | cs => do
      let (v, cs) ← readValue fuel cs
      match skipLines cs.length cs with
      | ',' :: cs => readItems fuel (v :: read) cs
      | ']' :: cs => some ((v :: read).reverse, cs)
      | _ => none

def readMembers (fuel : Nat) (es : Entries) (cs : List Char) : Option (Entries × List Char) :=
  match fuel with
  | 0 => none
  | fuel + 1 => do
    let (key, cs) ← readKey (cs.length + 1) cs
    match cs with
    | '=' :: cs =>
      let (v, cs) ← readValue fuel (skipBlanks cs)
      let es ← assign v key es
      match skipBlanks cs with
      | ',' :: cs => readMembers fuel es cs
      | '}' :: cs => some (es, cs)
      | _ => none
    | _ => none

end

/-! ## Documents -/

def readLine (cs : List Char) : Option (Line × List Char) :=
  match cs with
  | '[' :: '[' :: cs => do
    let (path, cs) ← readKey (cs.length + 1) cs
    match cs with
    | ']' :: ']' :: cs => return (.header path true, cs)
    | _ => none
  | '[' :: cs => do
    let (path, cs) ← readKey (cs.length + 1) cs
    match cs with
    | ']' :: cs => return (.header path false, cs)
    | _ => none
  | cs => do
    let (path, cs) ← readKey (cs.length + 1) cs
    match cs with
    | '=' :: cs =>
      let (v, cs) ← readValue (cs.length + 1) (skipBlanks cs)
      return (.value path v, cs)
    | _ => none

def readLines : Nat → List Char → Option (List Line)
  | 0, _ => none
  | fuel + 1, cs => do
    match skipLines cs.length cs with
    | [] => return []
    | cs =>
      let (line, cs) ← readLine cs
      return line :: (← readLines fuel (← endOfLine? cs))

/-- A text without the mark that may stand at the start of a file. -/
def dropByteOrderMark : List Char → List Char
  | '\ufeff' :: cs => cs
  | cs => cs

def parse? (text : String) : Option Entries := do
  let cs := dropByteOrderMark text.toList
  ofLines? (← readLines (cs.length + 1) cs)

end Worksheet.Toml
