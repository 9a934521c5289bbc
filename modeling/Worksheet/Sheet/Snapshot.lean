import Worksheet.Address.Coord
import Worksheet.SortedMap
import Worksheet.Decimal.Numeral
import Worksheet.Text.JsonString
import Worksheet.Text.WhiteSpace

/-!
# Snapshots

A snapshot is the stored text of every cell, by row and then by column. It is kept as JSON: an object of
rows, each an object of cells, with keys in decimal and in ascending order. White space alone counts as
the snapshot without rows.

* `Snapshot` : the nested map.
* `Snapshot.encode` : the JSON text, without any blanks.
* `Snapshot.decode?` : reads JSON text; of a repeated key the last member counts.
-/

namespace Worksheet

abbrev Snapshot := SortedMap (SortedMap String)

namespace Snapshot

/-! ## Writing -/

/-- A member of an object: the key in decimal, a colon and the value. -/
def encodeMember (key : Nat) (value : List Char) : List Char :=
  '"' :: (Nat.toDigits 10 key ++ '"' :: ':' :: value)

def encodeObject (members : List (List Char)) : List Char :=
  '{' :: ([','].intercalate members ++ ['}'])

def encodeRow (row : SortedMap String) : List Char :=
  encodeObject (row.entries.map fun (x, raw) => encodeMember x (Text.JsonString.quote raw.toList))

def encodeChars (s : Snapshot) : List Char :=
  encodeObject (s.entries.map fun (y, row) => encodeMember y (encodeRow row))

/-- The JSON text of a snapshot, without blanks and with ascending keys. -/
def encode (s : Snapshot) : String :=
  String.ofList s.encodeChars

/-! ## Reading -/

def isBlank (c : Char) : Bool :=
  c = ' ' || c = '\t' || c = '\n' || c = '\r'

def skipBlanks (cs : List Char) : List Char :=
  cs.dropWhile isBlank

/-- A key: a word in decimal without sign or leading zeros, between quotation marks. -/
def readKey : List Char → Option (Nat × List Char)
  | '"' :: cs =>
    match Decimal.takeDigits cs with
    | (d :: ds, '"' :: rest) =>
      if d = '0' ∧ ds ≠ [] then none
      else
        let n := Decimal.ofDigits (d :: ds)
        if n < wordBound then some (n, rest) else none
    | _ => none
  | _ => none

def readString : List Char → Option (String × List Char)
  | '"' :: cs => (Text.JsonString.readBody [] cs).map fun (s, rest) => (String.ofList s, rest)
  | _ => none

/-- The members of an object from the first key on, up to and with the closing brace. `members` are those
read so far, in reverse; `fuel` bounds how many are still read. -/
def readMembers {α : Type} (value : List Char → Option (α × List Char)) :
    Nat → List (Nat × α) → List Char → Option (List (Nat × α) × List Char)
  | 0, _, _ => none
  | fuel + 1, members, cs => do
    let (key, cs) ← readKey (skipBlanks cs)
    match skipBlanks cs with
    | ':' :: cs =>
      let (v, cs) ← value (skipBlanks cs)
      match skipBlanks cs with
      | ',' :: cs => readMembers value fuel ((key, v) :: members) cs
      | '}' :: cs => some (((key, v) :: members).reverse, cs)
      | _ => none
    | _ => none

def readObject {α : Type} (value : List Char → Option (α × List Char)) :
    List Char → Option (SortedMap α × List Char)
  | '{' :: cs =>
    match skipBlanks cs with
    | '}' :: cs => some (.empty, cs)
    | cs => (readMembers value cs.length [] cs).map fun (ms, rest) => (.ofEntries ms, rest)
  | _ => none

def readChars (cs : List Char) : Option Snapshot :=
  match readObject (readObject readString) (skipBlanks cs) with
  | some (s, rest) => if (skipBlanks rest).isEmpty then some s else none
  | none => none

/-- The snapshot that a text holds; white space alone is the empty one. -/
def decode? (text : String) : Option Snapshot :=
  if Text.isBlank text then some .empty else readChars text.toList

end Snapshot

end Worksheet
