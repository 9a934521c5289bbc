import Worksheet.Decimal.Numeral
import Worksheet.Script.Token
import Worksheet.Text.JsonString

/-!
# Reading the tokens of a script

A script is read from left to right; at each place the longest mark, word, number or quoted text is
taken. Blanks and comments are passed over. A text in backquotes may embed blocks, `$\x7b … \x7d`, whose
tokens stand among those of the script between a `textBefore` and the next piece of the text.

All words and marks of the engine's language have tokens, also those of statements and operands that the parser leaves
out. The words and marks that the language sets aside make a text malformed.

* `readNumber`, `readQuoted`, `readVerbatim`, `ofWord?`, `readMark` : one token at the start of a text.
* `tokens?` : the tokens of a script; malformed text has none.
-/

namespace Worksheet.Script.Lexer

-- powers of numbers are those of `Nat.pow` and `Int.pow`
attribute [local instance (high)] instPowNat

/-! ## Numbers -/

def takeBaseDigits (isDigit : Char → Bool) (cs : List Char) : List Char × List Char :=
  ((cs.takeWhile fun c => isDigit c || c = '_').filter (· != '_'),
    cs.dropWhile fun c => isDigit c || c = '_')

def ofBaseDigits (base : Nat) (ds : List Char) : Nat :=
  ds.foldl (fun n d => base * n + (Text.JsonString.hexValue? d).getD 0) 0

def isDigitOf (base : Nat) (c : Char) : Bool :=
  match Text.JsonString.hexValue? c with
  | some d => d < base
  | none => false

/-- The base that a letter after a leading zero announces. -/
def baseOf? : Char → Option Nat
  | 'x' | 'X' => some 16
  | 'o' | 'O' => some 8
  | 'b' | 'B' => some 2
  | _ => none

/-- A word in another base than ten, after its letter. Its bits are those of the integer. -/
def readWord (negative : Bool) (base : Nat) (cs : List Char) : Option (Token × List Char) :=
  let (ds, rest) := takeBaseDigits (isDigitOf base) cs
  let n := ofBaseDigits base ds
  if ds.isEmpty ∨ 2 ^ (64 : Nat) ≤ n then none
  else some (.int (Int64.ofInt (if negative then -n else n)), rest)

/-- The digits after a point, if a point stands here that belongs to the number: digits follow it, or
nothing that could be a property. -/
def takeFraction? : List Char → Option (List Char × List Char)
  | '.' :: c :: cs =>
    if c.isDigit then some (takeBaseDigits Char.isDigit (c :: cs))
    else if c.isAlpha || c = '_' || c = '.' then none
    else some (['0'], c :: cs)
  | _ => none

def takeExponent? : List Char → Option (List Char × List Char)
  | e :: c :: cs =>
    if e = 'e' ∨ e = 'E' then
      if c.isDigit then some (takeBaseDigits Char.isDigit (c :: cs))
      else if c = '+' ∨ c = '-' then
        let (ds, rest) := takeBaseDigits Char.isDigit cs
        some (c :: ds, rest)
      else none
    else none
  | _ => none

def floatToken? (negative : Bool) (cs : List Char) : Option Token :=
  (Decimal.Numeral.unsigned? negative cs).map fun n => .float n.toFloat

/-- An integer in decimal, or the nearest float if it is not a word. -/
def wholeToken? (negative : Bool) (ds : List Char) : Option Token :=
  let n : Int := Decimal.ofDigits ds
  let n := if negative then -n else n
  if -(2 ^ (63 : Nat)) ≤ n ∧ n < 2 ^ (63 : Nat) then some (.int (Int64.ofInt n)) else floatToken? negative ds

def readDecimal (negative : Bool) (cs : List Char) : Option (Token × List Char) :=
  let (whole, rest) := takeBaseDigits Char.isDigit cs
  match takeFraction? rest, takeExponent? rest with
  | some (fraction, rest), _ =>
    match takeExponent? rest with
    | some (exponent, rest) =>
      (floatToken? negative (whole ++ '.' :: (fraction ++ 'e' :: exponent))).map (·, rest)
    | none => (floatToken? negative (whole ++ '.' :: fraction)).map (·, rest)
  | none, some (exponent, rest) =>
    (floatToken? negative (whole ++ 'e' :: exponent)).map (·, rest)
  | none, none => (wholeToken? negative whole).map (·, rest)

def readNumber (negative : Bool) (cs : List Char) : Option (Token × List Char) :=
  match cs with
  | '0' :: c :: rest =>
    match baseOf? c with
    | some base => readWord negative base rest
    | none => readDecimal negative cs
  | _ => readDecimal negative cs

/-! ## Quoted texts -/

/-- The number of hexadecimal digits after an escape's letter. -/
def escapeWidth? : Char → Option Nat
  | 'x' => some 2
  | 'u' => some 4
  | 'U' => some 8
  | _ => none

def charOf? (n : Nat) : Option Char :=
  if n.isValidChar then some (Char.ofNat n) else none

/-- The character of an escape after its backslash, and the rest. `mark` is the quotation mark. -/
def readEscape (mark : Char) : List Char → Option (Char × List Char)
  | [] => none
  | c :: cs =>
    if c = mark ∨ c = '\\' then some (c, cs)
    else if c = 'n' then some ('\n', cs)
    else if c = 'r' then some ('\r', cs)
    else if c = 't' then some ('\t', cs)
    else
      match escapeWidth? c with
      | some width =>
        let ds := cs.take width
        if ds.length = width ∧ ds.all (isDigitOf 16) then
          (charOf? (ofBaseDigits 16 ds)).map (·, cs.drop width)
        else none
      | none => none

/-- Quoted text after its opening mark, up to and with the closing one; `read` is the part read so far,
in reverse, and `skip` counts characters of an escape or mark already dealt with. A doubled mark is one
mark. Where `continues`, a backslash at the end of a line joins the next line, without the blanks before
it. -/
def quotedFrom (mark : Char) (continues : Bool) (skip : Nat) (read : List Char) :
    List Char → Option (List Char × List Char)
  | [] => none
  | c :: cs =>
    match skip with
    | skip + 1 => quotedFrom mark continues skip read cs
    | 0 =>
      if c = mark then
        match cs with
        | d :: _ => if d = mark then quotedFrom mark continues 1 (mark :: read) cs else some (read.reverse, cs)
        | [] => some (read.reverse, [])
      else if c = '\n' then none
      else if c = '\\' then
        match cs with
        | '\n' :: rest =>
          if continues then
            quotedFrom mark continues (1 + (rest.takeWhile fun d => d = ' ' || d = '\t').length) read cs
          else none
        | _ =>
          match readEscape mark cs with
          | some (d, rest) => quotedFrom mark continues (cs.length - rest.length) (d :: read) cs
          | none => none
      else quotedFrom mark continues 0 (c :: read) cs

/-- Text after its opening mark up to a quotation mark with so many `#` after it; nothing in it is an escape. -/
def rawFrom (count : Nat) (read : List Char) : List Char → Option (List Char × List Char)
  | [] => none
  | c :: cs =>
    if c = '"' ∧ count ≤ (cs.takeWhile (· = '#')).length then some (read.reverse, cs.drop count)
    else rawFrom count (c :: read) cs

def readText (cs : List Char) : Option (Token × List Char) :=
  (quotedFrom '"' true 0 [] cs).map fun (s, rest) => (.text (String.ofList s), rest)

def readChar (cs : List Char) : Option (Token × List Char) :=
  match quotedFrom '\'' false 0 [] cs with
  | some ([c], rest) => some (.char c, rest)
  | _ => none

inductive PieceEnd
  /-- At the closing backquote. -/
  | closed
  /-- After the opening brace of an embedded block. -/
  | block

def backquote : Char := '\x60'

/-- A piece of a text in backquotes: up to the closing backquote or an embedded block. A doubled
backquote is one. -/
def verbatimFrom (afterMark : Bool) (read : List Char) : List Char → Option (List Char × PieceEnd × List Char)
  | [] => if afterMark then some (read.reverse, .closed, []) else none
  | c :: cs =>
    if afterMark then
      if c = backquote then verbatimFrom false (backquote :: read) cs
      else some (read.reverse, .closed, c :: cs)
    else if c = backquote then verbatimFrom true read cs
    else
      match c, cs with
      | '$', '{' :: rest => some (read.reverse, .block, rest)
      | _, _ => verbatimFrom false (c :: read) cs

def readVerbatim (cs : List Char) : Option (Token × PieceEnd × List Char) :=
  (verbatimFrom false [] cs).map fun (s, stop, rest) =>
    match stop with
    | .closed => (.text (String.ofList s), .closed, rest)
    | .block => (.textBefore (String.ofList s), .block, rest)

def dropLineBreak : List Char → List Char
  | '\r' :: '\n' :: cs => cs
  | '\n' :: cs => cs
  | cs => cs

/-! ## Words -/

def setAside : List String := [
  "public", "protected", "super", "new", "use", "module", "package", "var", "static", "begin", "end",
  "shared", "with", "is", "goto", "exit", "match", "case", "default", "void", "null", "nil", "spawn",
  "thread", "go", "sync", "async", "await", "yield", "each", "then", "unless"]

/-- Words that only name functions; those of the second list also after a dot. -/
def functionOnly : List String :=
  ["print", "debug", "eval", "Fn", "is_def_fn", "is_def_var"]

@[inherit_doc functionOnly]
def methodToo : List String :=
  ["type_of", "call", "curry", "is_shared"]

def keywords : List (String × Keyword) := [
  ("true", .true_), ("false", .false_), ("let", .let_), ("const", .const), ("if", .if_),
  ("else", .else_), ("while", .while_), ("loop", .loop), ("for", .for_), ("break", .break_),
  ("continue", .continue_), ("return", .return_), ("throw", .throw_), ("try", .try_),
  ("catch", .catch_), ("fn", .fn), ("private", .private_), ("this", .this), ("switch", .switch_),
  ("do", .do_), ("until", .until_), ("import", .import_), ("export", .export_), ("as", .as_)]

def isLed (cs : List Char) : Bool :=
  match cs.dropWhile (· = '_') with
  | c :: _ => c.isAlpha
  | [] => false

def ofWord? (cs : List Char) : Option Token :=
  let s := String.ofList cs
  if s = "in" then some (.operator .within)
  else if s = "_" then some .underscore
  else
    match keywords.lookup s with
    | some k => some (.keyword k)
    | none =>
      if setAside.contains s || !isLed cs then none
      else if functionOnly.contains s then some (.callable s false)
      else if methodToo.contains s then some (.callable s true)
      else some (.name s)

def isWordPart (c : Char) : Bool :=
  c.isAlphanum || c = '_'

/-! ## Marks -/

/-- A mark that an operator, or the operator with `=`, is written with. -/
def operatorOr (op : BinaryOp) (cs : List Char) : Token × List Char :=
  match cs with
  | '=' :: rest => (.assign (some op), rest)
  | _ => (.operator (.binary op), cs)

/-- The longest mark at the start of a text. Some marks are set aside: they are read as one and have no
meaning. -/
def readMark : List Char → Option (Token × List Char)
  | '{' :: cs => some (.openBrace, cs)
  | '}' :: cs => some (.closeBrace, cs)
  | '(' :: ')' :: cs => some (.unit, cs)
  | '(' :: '*' :: _ => none
  | '(' :: cs => some (.openParen, cs)
  | ')' :: cs => some (.closeParen, cs)
  | '[' :: cs => some (.openBracket, cs)
  | ']' :: cs => some (.closeBracket, cs)
  | '#' :: '{' :: cs => some (.openMap, cs)
  | '+' :: '+' :: _ => none
  | '+' :: cs => some (operatorOr .add cs)
  | '-' :: '-' :: _ => none
  | '-' :: '>' :: _ => none
  | '-' :: cs => some (operatorOr .sub cs)
  | '*' :: ')' :: _ => none
  | '*' :: '*' :: cs => some (operatorOr .pow cs)
  | '*' :: cs => some (operatorOr .mul cs)
  | '/' :: cs => some (operatorOr .div cs)
  | '%' :: cs => some (operatorOr .rem cs)
  | '=' :: '=' :: '=' :: _ => none
  | '=' :: '=' :: cs => some (.operator (.binary .eq), cs)
  | '=' :: '>' :: cs => some (.arrow, cs)
  | '=' :: cs => some (.assign none, cs)
  | '<' :: '<' :: cs => some (operatorOr .shiftLeft cs)
  | '<' :: '=' :: cs => some (.operator (.binary .le), cs)
  | '<' :: '-' :: _ => none
  | '<' :: '|' :: _ => none
  | '<' :: cs => some (.operator (.binary .lt), cs)
  | '>' :: '>' :: cs => some (operatorOr .shiftRight cs)
  | '>' :: '=' :: cs => some (.operator (.binary .ge), cs)
  | '>' :: cs => some (.operator (.binary .gt), cs)
  | '!' :: '=' :: '=' :: _ => none
  | '!' :: '=' :: cs => some (.operator (.binary .ne), cs)
  | '!' :: '.' :: _ => none
  | '!' :: 'i' :: 'n' :: c :: cs =>
    if isWordPart c then some (.not, 'i' :: 'n' :: c :: cs) else some (.operator .notWithin, c :: cs)
  | '!' :: cs => some (.not, cs)
  | '&' :: '&' :: cs => some (.operator .both, cs)
  | '&' :: cs => some (operatorOr .bitAnd cs)
  | '|' :: '|' :: cs => some (.operator .either, cs)
  | '|' :: '>' :: _ => none
  | '|' :: cs => some (operatorOr .bitOr cs)
  | '^' :: cs => some (operatorOr .bitXor cs)
  | '?' :: '?' :: cs => some (.operator .coalesce, cs)
  | '?' :: '.' :: cs => some (.optionalDot, cs)
  | '?' :: '[' :: cs => some (.optionalBracket, cs)
  | '.' :: '.' :: '.' :: _ => none
  | '.' :: '.' :: '=' :: cs => some (.operator (.binary .upThrough), cs)
  | '.' :: '.' :: cs => some (.operator (.binary .upTo), cs)
  | '.' :: cs => some (.dot, cs)
  | ',' :: cs => some (.comma, cs)
  | ';' :: cs => some (.semicolon, cs)
  | ':' :: ':' :: cs => some (.colons, cs)
  | ':' :: '=' :: _ => none
  | ':' :: ';' :: _ => none
  | ':' :: cs => some (.colon, cs)
  | _ => none

/-! ## Blanks and comments -/

def isBlank (c : Char) : Bool :=
  c = ' ' || c = '\t' || c = '\n' || c = '\r' || c = '\x0c'

/-- What follows a comment between `/*` and `*/`, in which comments may be nested; `skip` characters
belong to a mark already read. A comment that is not closed goes to the end. -/
def afterComment (depth : Nat) (skip : Nat) : List Char → List Char
  | [] => []
  | c :: cs =>
    match skip with
    | skip + 1 => afterComment depth skip cs
    | 0 =>
      match c, cs with
      | '*', '/' :: rest => if depth = 0 then rest else afterComment (depth - 1) 1 cs
      | '/', '*' :: _ => afterComment (depth + 1) 1 cs
      | _, _ => afterComment depth 0 cs

/-! ## Scripts -/

structure Place where
  /-- Whether a `-` right before a digit is a sign here. -/
  admitsSign : Bool
  /-- The open braces in each embedded block that is being read, the innermost block first. -/
  blocks : List Nat

structure Step where
  tokens : List Token
  place : Place
  rest : List Char

def Step.one (place : Place) (t : Token) (rest : List Char) : Step :=
  ⟨[t], { place with admitsSign := t.admitsSign }, rest⟩

def pieceStep (before : List Token) (blocks : List Nat) (cs : List Char) : Option Step :=
  (readVerbatim cs).map fun (t, stop, rest) =>
    match stop with
    | .closed => ⟨before ++ [t], ⟨false, blocks⟩, rest⟩
    | .block => ⟨before ++ [t, .openBrace], ⟨true, 0 :: blocks⟩, rest⟩

/-- A step at a mark; braces are counted inside embedded blocks, and the one that ends a block is
followed by the next piece of its text. -/
def markStep (place : Place) (cs : List Char) : Option Step := do
  let (t, rest) ← readMark cs
  match t, place.blocks with
  | .closeBrace, 0 :: blocks => pieceStep [.closeBrace] blocks rest
  | .closeBrace, (n + 1) :: blocks => some (Step.one { place with blocks := n :: blocks } t rest)
  | .openBrace, n :: blocks => some (Step.one { place with blocks := (n + 1) :: blocks } t rest)
  | .openMap, n :: blocks => some (Step.one { place with blocks := (n + 1) :: blocks } t rest)
  | _, _ => some (Step.one place t rest)

def step (place : Place) (cs : List Char) : Option Step :=
  match cs with
  | [] => none
  | c :: rest =>
    if isBlank c then some ⟨[], place, rest⟩
    else if c.isDigit then (readNumber false cs).map fun (t, rest) => Step.one place t rest
    else if c.isAlpha ∨ c = '_' then
      (ofWord? (cs.takeWhile isWordPart)).map fun t => Step.one place t (cs.dropWhile isWordPart)
    else if c = '"' then (readText rest).map fun (t, rest) => Step.one place t rest
    else if c = '\'' then (readChar rest).map fun (t, rest) => Step.one place t rest
    else if c = backquote then pieceStep [] place.blocks (dropLineBreak rest)
    else
      match c, rest with
      | '/', '/' :: rest => some ⟨[], place, rest.dropWhile (· != '\n')⟩
      | '/', '*' :: rest => some ⟨[], place, afterComment 0 0 rest⟩
      | '#', rest =>
        match rest.dropWhile (· = '#') with
        | '"' :: text =>
          (rawFrom (1 + (rest.takeWhile (· = '#')).length) [] text).map fun (s, rest) =>
            Step.one place (.text (String.ofList s)) rest
        | _ => markStep place cs
      | '-', d :: _ =>
        if place.admitsSign && d.isDigit then
          (readNumber true rest).map fun (t, rest) => Step.one place t rest
        else markStep place cs
      | _, _ => markStep place cs

/-- The tokens of a text from a place on, after the tokens `read`, which are in reverse; `skip`
characters have already been read. -/
def tokensFrom (skip : Nat) (place : Place) (read : List Token) : List Char → Option (List Token)
  | [] => some read.reverse
  | c :: cs =>
    match skip with
    | skip + 1 => tokensFrom skip place read cs
    | 0 =>
      match step place (c :: cs) with
      | some s => tokensFrom (cs.length - s.rest.length) s.place (s.tokens.reverse ++ read) cs
      | none => none

def tokens? (script : String) : Option (List Token) :=
  tokensFrom 0 ⟨true, []⟩ [] script.toList

end Worksheet.Script.Lexer
