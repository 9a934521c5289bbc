/-!
# JSON strings

The quoted form of a text: quotation marks, backslashes and control characters are escaped and all else
stands for itself. Reading also accepts the escapes that writing does not use.

* `escape`, `quote` : writing.
* `readBody` : reading, from after the opening quotation mark to after the closing one.
-/

namespace Worksheet.Text.JsonString

/-- The last of the characters that may not stand unescaped is `'\x1f'`. -/
def isControl (c : Char) : Bool :=
  c.toNat < 0x20

def hexDigit (n : Nat) : Char :=
  Nat.digitChar (n % 16)

def hexValue? (c : Char) : Option Nat :=
  if '0' ≤ c ∧ c ≤ '9' then some (c.toNat - '0'.toNat)
  else if 'a' ≤ c ∧ c ≤ 'f' then some (c.toNat - 'a'.toNat + 10)
  else if 'A' ≤ c ∧ c ≤ 'F' then some (c.toNat - 'A'.toNat + 10)
  else none

def escape (c : Char) : List Char :=
  if c = '"' then ['\\', '"']
  else if c = '\\' then ['\\', '\\']
  else if c = '\x08' then ['\\', 'b']
  else if c = '\x0c' then ['\\', 'f']
  else if c = '\n' then ['\\', 'n']
  else if c = '\r' then ['\\', 'r']
  else if c = '\t' then ['\\', 't']
  else if isControl c then ['\\', 'u', '0', '0', hexDigit (c.toNat / 16), hexDigit c.toNat]
  else [c]

def quote (cs : List Char) : List Char :=
  '"' :: (cs.flatMap escape ++ ['"'])

def hex4? (a b c d : Char) : Option Nat := do
  return ((← hexValue? a) * 16 + (← hexValue? b)) * 256 + (← hexValue? c) * 16 + (← hexValue? d)

def simpleEscape? (c : Char) : Option Char :=
  match c with
  | '"' => some '"'
  | '\\' => some '\\'
  | '/' => some '/'
  | 'b' => some '\x08'
  | 'f' => some '\x0c'
  | 'n' => some '\n'
  | 'r' => some '\r'
  | 't' => some '\t'
  | _ => none

def ofSurrogates? (high low : Nat) : Option Char :=
  if 0xDC00 ≤ low ∧ low < 0xE000 then
    some (Char.ofNat (0x10000 + (high - 0xD800) * 0x400 + (low - 0xDC00)))
  else none

/-- Reads up to the closing quotation mark: the text, `read` being its part read so far in reverse, and
what follows the mark. Control characters, unknown escapes and surrogates without their partner are
refused. -/
def readBody (read : List Char) : List Char → Option (List Char × List Char)
  | [] => none
  | '"' :: cs => some (read.reverse, cs)
  | '\\' :: 'u' :: a :: b :: c :: d :: cs => do
    let n ← hex4? a b c d
    if 0xDC00 ≤ n ∧ n < 0xE000 then none
    else if 0xD800 ≤ n ∧ n < 0xDC00 then
      match cs with
      | '\\' :: 'u' :: a :: b :: c :: d :: cs => do
        let ch ← ofSurrogates? n (← hex4? a b c d)
        readBody (ch :: read) cs
      | _ => none
    else readBody (Char.ofNat n :: read) cs
  | '\\' :: c :: cs => do
    let ch ← simpleEscape? c
    readBody (ch :: read) cs
  | c :: cs => if c = '\\' ∨ isControl c then none else readBody (c :: read) cs

end Worksheet.Text.JsonString
