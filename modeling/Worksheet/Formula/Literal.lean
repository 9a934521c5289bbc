/-!
# Quoted literals in a formula

A formula is made of plain text and of literals in quotation marks, in which cell names mean nothing. A
literal runs from a quotation mark to the next one that does not follow an odd number of backslashes, or
to the end of the formula.

* `Piece` : plain text or a literal, its quotation marks included.
* `pieces` : the pieces of a formula in order.
* `mapPlain` : a formula with its plain text changed and its literals kept.
* `flatMap_chars_pieces` : nothing is lost.
-/

namespace Worksheet.Formula

inductive Piece
  | plain (cs : List Char)
  | literal (cs : List Char)
  deriving DecidableEq, Repr

def Piece.chars : Piece → List Char
  | plain cs => cs
  | literal cs => cs

inductive Place
  | outside
  /-- In a literal; `odd` says whether an odd number of backslashes has just been read. -/
  | inside (odd : Bool)
  deriving DecidableEq, Repr

/-- The pieces of a text from a place on; `read` is the part of the current piece read so far, in
reverse. -/
def piecesFrom (place : Place) (read : List Char) : List Char → List Piece
  | [] =>
    match place with
    | .outside => [.plain read.reverse]
    | .inside _ => [.literal read.reverse]
  | c :: cs =>
    match place with
    | .outside =>
      if c = '"' then .plain read.reverse :: piecesFrom (.inside false) [c] cs
      else piecesFrom .outside (c :: read) cs
    | .inside odd =>
      if c = '\\' then piecesFrom (.inside !odd) (c :: read) cs
      else if c = '"' ∧ odd = false then .literal (c :: read).reverse :: piecesFrom .outside [] cs
      else piecesFrom (.inside false) (c :: read) cs

def pieces (cs : List Char) : List Piece :=
  piecesFrom .outside [] cs

def mapPlain (f : List Char → List Char) (cs : List Char) : List Char :=
  (pieces cs).flatMap fun
    | .plain p => f p
    | .literal l => l

/-! ## Laws -/

theorem flatMap_chars_piecesFrom (place : Place) (read cs : List Char) :
    (piecesFrom place read cs).flatMap Piece.chars = read.reverse ++ cs := by
  induction cs generalizing place read with
  | nil => cases place <;> simp [piecesFrom, Piece.chars]
  | cons c cs ih =>
    cases place with
    | outside =>
      simp only [piecesFrom]
      split <;> simp [Piece.chars, ih]
    | inside odd =>
      simp only [piecesFrom]
      split
      · simp [ih]
      · split <;> simp [Piece.chars, ih]

theorem flatMap_chars_pieces (cs : List Char) : (pieces cs).flatMap Piece.chars = cs := by
  simp [pieces, flatMap_chars_piecesFrom]

end Worksheet.Formula
